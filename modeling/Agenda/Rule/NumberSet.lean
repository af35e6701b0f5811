import Agenda.Text.Numeral

/-!
# Sets of numbers

The lists in a repeat rule are finite sets: neither the order in which their entries are given nor
a repeated entry matters. A set is held as its one ascending list, so equal sets are equal values
(`NumberSet.ext`), and it is written as its numbers between commas.
-/

namespace Agenda

/-- Things that are written as a whole number, different things as different numbers. -/
class Numbered (α : Type) where
  value : α → Int
  value_injective : ∀ {a b : α}, value a = value b → a = b

open Numbered (value)

instance : Numbered Nat where
  value := Int.ofNat
  value_injective := Int.ofNat.inj

/-- A finite set, as its ascending list. -/
structure NumberSet (α : Type) [Numbered α] where
  toList : List α
  ascending : toList.Pairwise fun a b => value a < value b

namespace NumberSet

variable {α : Type} [Numbered α]

instance : Membership α (NumberSet α) := ⟨fun s a => a ∈ s.toList⟩

instance [DecidableEq α] (a : α) (s : NumberSet α) : Decidable (a ∈ s) :=
  inferInstanceAs (Decidable (a ∈ s.toList))

instance [DecidableEq α] : DecidableEq (NumberSet α) := fun s t =>
  if h : s.toList = t.toList then
    .isTrue (by cases s; cases t; cases h; rfl)
  else .isFalse fun heq => h (heq ▸ rfl)

/-- Sets with one list are the same. -/
theorem ext {s t : NumberSet α} (h : s.toList = t.toList) : s = t := by
  cases s
  cases t
  cases h
  rfl

/-- The set without elements. -/
def empty : NumberSet α := ⟨[], .nil⟩

/-- Whether the set has no elements. -/
def isEmpty (s : NumberSet α) : Bool := s.toList.isEmpty

/-- An ascending list with one more element in its place. -/
def insertAscending (a : α) : List α → List α
  | [] => [a]
  | b :: bs =>
    if value a < value b then a :: b :: bs
    else if value a = value b then b :: bs
    else b :: insertAscending a bs

private theorem mem_insertAscending {a x : α} {bs : List α} :
    x ∈ insertAscending a bs ↔ x = a ∨ x ∈ bs := by
  induction bs with
  | nil => simp [insertAscending]
  | cons b bs ih =>
    unfold insertAscending
    split
    · simp
    · split
      · next heq =>
        have : a = b := Numbered.value_injective heq
        simp [this]
      · simp only [List.mem_cons, ih]
        exact or_left_comm

private theorem pairwise_insertAscending (a : α) {bs : List α}
    (h : bs.Pairwise fun a b => value a < value b) :
    (insertAscending a bs).Pairwise fun a b => value a < value b := by
  induction bs with
  | nil => simp [insertAscending]
  | cons b bs ih =>
    rw [List.pairwise_cons] at h
    unfold insertAscending
    split
    · next hlt =>
      refine List.pairwise_cons.2 ⟨fun x hx => ?_, List.pairwise_cons.2 h⟩
      rcases List.mem_cons.1 hx with rfl | hx
      · exact hlt
      · exact Int.lt_trans hlt (h.1 x hx)
    · next hnlt =>
      split
      · exact List.pairwise_cons.2 h
      · next hne =>
        refine List.pairwise_cons.2 ⟨fun x hx => ?_, ih h.2⟩
        rcases mem_insertAscending.1 hx with rfl | hx
        · omega
        · exact h.1 x hx

/-- The set with one more element. -/
def insert (a : α) (s : NumberSet α) : NumberSet α :=
  ⟨insertAscending a s.toList, pairwise_insertAscending a s.ascending⟩

/-- The set of the elements of a list. -/
def ofList (as : List α) : NumberSet α := as.foldr insert empty

/-- The numbers of the set between commas. -/
def chars (s : NumberSet α) : List Char :=
  [','].intercalate (s.toList.map fun a => Text.decimal (value a))

/-- The set of a list has exactly its elements. -/
theorem mem_ofList {x : α} {as : List α} : x ∈ ofList as ↔ x ∈ as := by
  induction as with
  | nil => exact Iff.rfl
  | cons a as ih =>
    change x ∈ insertAscending a (ofList as).toList ↔ _
    rw [mem_insertAscending, List.mem_cons]
    exact or_congr Iff.rfl ih

end NumberSet

end Agenda
