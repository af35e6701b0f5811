import Agenda.Store.Basic
import Agenda.Text.Like

/-!
# Listing tasks

A listing has the tasks that a search term picks, by date text and then by id, up to a limit. A term
that reads as a date picks the tasks of that day; any other term is looked for in titles and
comments. A term that is too long for a pattern is refused.
-/

namespace Agenda

open Calendar

/-- Which tasks a listing has. -/
inductive Criterion where
  /-- Every task. -/
  | all
  /-- The tasks stored under this date text. -/
  | onDate (date : String)
  /-- The tasks whose title or comment is like the pattern. -/
  | isLike (pattern : List Char)
deriving DecidableEq, Repr

namespace Criterion

/-- What a search term stands for. Blanks around it do not count, and a blank term is none. -/
def ofSearch (search : Option String) : Criterion :=
  match search.map fun term => Text.trim term.toList with
  | none | some [] => all
  | some term =>
    match searchDate? term with
    | some date => onDate date.text
    | none => isLike ('%' :: term ++ ['%'])

/-- Whether a task is picked. -/
def holds (criterion : Criterion) (task : Task) : Bool :=
  match criterion with
  | all => true
  | onDate date => task.date == date
  | isLike pattern =>
    Text.isLike pattern task.title.toList || Text.isLike pattern task.comment.toList

/-- Whether no task can be compared with the criterion, since its pattern is too long. -/
def isTooLong : Criterion → Bool
  | isLike pattern => decide (Text.longestPattern < Text.byteCount pattern)
  | all | onDate _ => false

end Criterion

/-- The order of a listing. -/
def Task.listedBefore (a b : Task) : Bool :=
  decide (a.date < b.date) || (a.date == b.date && decide (a.id ≤ b.id))

/-- The most tasks a listing has unless another limit is given. -/
def defaultLimit : Nat := 50

/-- The tasks that a search picks, in order, up to a limit. A pattern that is too long is noticed
with the first task that is compared with it, so never without tasks or with a limit of zero. -/
def Store.list (store : Store) (search : Option String) (limit : Nat) :
    Except Error (List Task) :=
  let criterion := Criterion.ofSearch search
  if criterion.isTooLong ∧ store.rows ≠ [] ∧ limit ≠ 0 then .error .patternTooLong
  else .ok (((store.rows.filter criterion.holds).mergeSort Task.listedBefore).take limit)

end Agenda
