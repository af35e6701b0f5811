import Agenda.Proofs.Schedule.Settled
import Agenda.Proofs.Store.Frame

/-!
# Changing a task

A change that goes through gives the task what it names and leaves the rest; the date is then
brought up to date as on creation. Made again, the same change answers the same and does nothing,
exactly if it gives a date or the date that it has left has eight digits (`Store.update_merges`).
-/

namespace Agenda

open Calendar

/-- A change made again gives the task nothing new but the date. -/
theorem TaskUpdate.applyTo_applyTo (change : TaskUpdate) (task : Task) (date : String) :
    change.applyTo { change.applyTo task with date } =
      { change.applyTo task with date := change.date.getD date } := by
  obtain ⟨title, _, comment, repeatText⟩ := change
  cases title <;> cases comment <;> cases repeatText <;> rfl

namespace Store

variable {store later : Store} {id : Int} {change : TaskUpdate} {today : Date} {task : Task}

/-- A task that has replaced a row replaces itself without effect. -/
theorem replace_replace (store : Store) (task : Task) :
    (store.replace task).replace task = store.replace task := by
  unfold replace
  rw [List.map_map]
  congr 1
  apply List.map_congr_left
  intro row _
  by_cases hid : row.id = task.id
  · simp [hid]
  · simp [hid]

/-- A change goes through exactly if there is a row with the id and the merged task has a title, and
a date and a rule that are accepted. -/
theorem update_eq_ok_iff :
    store.update id change today = (.ok task, later) ↔
      ∃ current, store.find? id = some current ∧
        isTitle (change.applyTo current).title = true ∧
        normalizeDate today (change.applyTo current).date (change.applyTo current).repeatText =
          .ok task.date ∧
        task = { change.applyTo current with date := task.date } ∧ later = store.replace task := by
  cases hfind : store.find? id with
  | none => simp [update, hfind]
  | some current =>
    cases hdate : checkedDate today (change.applyTo current).title (change.applyTo current).date
        (change.applyTo current).repeatText with
    | error e =>
      simp only [update, hfind, hdate, Prod.mk.injEq, reduceCtorEq, false_and, Option.some.injEq,
        false_iff, not_exists]
      rintro _ ⟨rfl, htitle, hok, _⟩
      rw [checkedDate_eq_ok_iff.2 ⟨htitle, hok⟩] at hdate
      exact absurd hdate (by simp)
    | ok date =>
      obtain ⟨htitle, hok⟩ := checkedDate_eq_ok_iff.1 hdate
      simp only [update, hfind, hdate, Prod.mk.injEq, Except.ok.injEq, Option.some.injEq]
      constructor
      · rintro ⟨rfl, rfl⟩
        exact ⟨current, rfl, htitle, hok, rfl, rfl⟩
      · rintro ⟨_, rfl, _, hsame, htask, rfl⟩
        rw [hok] at hsame
        rw [Except.ok.inj hsame, ← htask]
        exact ⟨rfl, rfl⟩

private theorem parts_of_update (h : store.update id change today = (.ok task, later)) :
    ∃ current, store.find? id = some current ∧ task.id = id ∧
      task.title = change.title.getD current.title ∧
      task.comment = change.comment.getD current.comment ∧
      task.repeatText = change.repeatText.getD current.repeatText ∧
      normalizeDate today (change.date.getD current.date) task.repeatText = .ok task.date := by
  obtain ⟨current, hfind, _, hdate, htask, _⟩ := update_eq_ok_iff.1 h
  rw [htask]
  exact ⟨current, hfind, (find?_eq_some hfind).2, rfl, rfl, rfl, hdate⟩

/-- A change made again goes through, with the same answer and without effect, exactly if the date
that it comes to the second time is the same. -/
theorem update_again_iff (h : store.update id change today = (.ok task, later)) :
    later.update id change today = (.ok task, later) ↔
      normalizeDate today (change.date.getD task.date) task.repeatText = .ok task.date := by
  obtain ⟨current, hfind, htitle, _, htask, rfl⟩ := update_eq_ok_iff.1 h
  have hid : task.id = id := by
    rw [htask]
    exact (find?_eq_some hfind).2
  -- The change made again gives the task that is there, but for its date.
  have hmerged : change.applyTo task = { task with date := change.date.getD task.date } := by
    rw [htask]
    exact change.applyTo_applyTo current task.date
  rw [update_eq_ok_iff, find?_replace hfind hid, replace_replace]
  constructor
  · rintro ⟨row, hrow, _, hdate, _⟩
    rwa [← Option.some.inj hrow, hmerged] at hdate
  · intro hdate
    refine ⟨task, rfl, ?_, ?_, ?_, rfl⟩
    · rw [hmerged, htask]
      exact htitle
    · rwa [hmerged]
    · rw [hmerged]

/-- What a change that goes through makes of a task. Title, comment and repeat rule are those of the
change where it names them and the old ones otherwise, and the date is what the given or else the
old one comes to under the new rule. Without a date in the change, the text of a day that is not
past stays, whatever else changes. The same change made again gives the same answer and leaves the
store as it is, exactly if it gives a date or the date of the task has eight digits. -/
theorem update_merges (h : store.update id change today = (.ok task, later)) :
    (∃ current, store.find? id = some current ∧ task.id = id ∧
      task.title = change.title.getD current.title ∧
      task.comment = change.comment.getD current.comment ∧
      task.repeatText = change.repeatText.getD current.repeatText ∧
      normalizeDate today (change.date.getD current.date) task.repeatText = .ok task.date ∧
      (change.date = none → ∀ day : Date, current.date = day.text → today ≤ day →
        task.date = current.date)) ∧
    (later.update id change today = (.ok task, later) ↔
      change.date.isSome = true ∨ HasEightDigits task.date) := by
  obtain ⟨current, hfind, hid, htitle, hcomment, hrepeat, hdate⟩ := parts_of_update h
  refine ⟨⟨current, hfind, hid, htitle, hcomment, hrepeat, hdate, ?_⟩, ?_⟩
  · intro hnone day hday hnotPast
    obtain ⟨optional, hrule⟩ := parseOptional_of_normalizeDate hdate
    rw [hnone, Option.getD_none, hday] at hdate
    rw [hday]
    exact ((normalizeDate_text_eq_ok_iff hrule hnotPast).1 hdate).1
  · rw [update_again_iff h]
    cases hgiven : change.date with
    | none =>
      rw [hgiven, Option.getD_none] at hdate
      simpa using normalizeDate_again_iff hdate
    | some given =>
      rw [hgiven] at hdate
      simpa using hdate

/-- A monthly task was added for the end of January and has not been done. -/
def overdueRent : Store :=
  empty.afterAll
    [.add { title := "Rent", date := "20240131", repeatText := "m 31" }
      (.civil 2024 1 15 (by decide))]

/-- In March the task is changed to come up on the last day of every month. -/
def toLastDay : TaskUpdate := { comment := some "by transfer", repeatText := some "m -1" }

/-- The task as it is after the change. -/
def rentInMarch : Task :=
  { id := 1, date := "20240331", title := "Rent", comment := "by transfer", repeatText := "m -1" }

/-- The old date moves by the new rule, and the change can be made again without effect. -/
theorem update_merges_overdueRent :
    overdueRent.Reachable ∧
    overdueRent.update 1 toLastDay (.civil 2024 3 5 (by decide)) =
      (.ok rentInMarch, ⟨[rentInMarch], 1⟩) ∧
    (∃ current, overdueRent.find? 1 = some current ∧ rentInMarch.title = current.title ∧
      normalizeDate (.civil 2024 3 5 (by decide)) current.date "m -1" = .ok "20240331") ∧
    (⟨[rentInMarch], 1⟩ : Store).update 1 toLastDay (.civil 2024 3 5 (by decide)) =
      (.ok rentInMarch, ⟨[rentInMarch], 1⟩) := by
  have hupdate : overdueRent.update 1 toLastDay (.civil 2024 3 5 (by decide)) =
      (.ok rentInMarch, ⟨[rentInMarch], 1⟩) := by decide
  obtain ⟨⟨current, hfind, _, htitle, _, _, hdate, _⟩, hagain⟩ := update_merges hupdate
  exact ⟨⟨_, rfl⟩, hupdate, ⟨current, hfind, htitle, hdate⟩, hagain.2 (.inr (by decide))⟩

end Store

end Agenda
