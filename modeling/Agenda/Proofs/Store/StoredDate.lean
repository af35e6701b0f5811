import Agenda.Proofs.Calendar.DateText
import Agenda.Proofs.Store.Basic

/-!
# The dates of a store

Every date of a store is the text of a day. It is in stored form as long as no rule has moved a task
past the year 9999: the next date of a rule is written without a look at its year, and a longer year
makes a text that is never read again (`Store.hasReadableDates_iff`).
-/

namespace Agenda

open Calendar

namespace Store

namespace Operation

/-- The current day of an operation, where it has one. -/
def today? : Operation → Option Date
  | add _ today => some today
  | update _ _ today => some today
  | setDate _ _ => none
  | complete _ today => some today
  | delete _ => none

/-- The current day of an operation has a year of four digits. -/
def HasFourDigitYear (op : Operation) : Prop :=
  ∀ today ∈ op.today?, today.HasFourDigitYear

instance (op : Operation) : Decidable op.HasFourDigitYear :=
  inferInstanceAs (Decidable (∀ today ∈ op.today?, today.HasFourDigitYear))

end Operation

/-- Every date of the store is in stored form. -/
def HasReadableDates (store : Store) : Prop :=
  ∀ row ∈ store.rows, (Date.ofText? row.date).isSome

instance (store : Store) : Decidable store.HasReadableDates :=
  inferInstanceAs (Decidable (∀ row ∈ store.rows, _))

/-- The operation moves a task by its rule to a next date. -/
inductive MovesByRule (store : Store) : Operation → Date → Prop
  /-- A task is added under a past date. -/
  | added {new : NewTask} {today next : Date} (htitle : isTitle new.title = true)
      (hmoves : MovesTo today new.date new.repeatText next) :
      MovesByRule store (.add new today) next
  /-- A task has a past date after a change. -/
  | updated {id : Int} {change : TaskUpdate} {today next : Date} {current : Task}
      (hfind : store.find? id = some current)
      (htitle : isTitle (change.applyTo current).title = true)
      (hmoves : MovesTo today (change.applyTo current).date (change.applyTo current).repeatText
        next) :
      MovesByRule store (.update id change today) next
  /-- A repeating task is completed. -/
  | completed {id : Int} {today next : Date} {current : Task}
      (hfind : store.find? id = some current)
      (hmoves : Agenda.complete today current.date current.repeatText = .ok (.reschedule next)) :
      MovesByRule store (.complete id today) next

variable {store : Store} {op : Operation} {next : Date}

/-- A task is moved to a date after the current day of the operation. -/
theorem MovesByRule.lt_next (h : store.MovesByRule op next) :
    ∃ today, op.today? = some today ∧ today < next := by
  cases h with
  | added htitle hmoves => exact ⟨_, rfl, lt_of_movesTo hmoves⟩
  | updated hfind htitle hmoves => exact ⟨_, rfl, lt_of_movesTo hmoves⟩
  | completed hfind hmoves =>
    obtain ⟨_, _, _, _, hnext⟩ := complete_eq_reschedule_iff.1 hmoves
    exact ⟨_, rfl, lt_of_nextDate_eq_ok hnext⟩

private theorem MovesByRule.exists_row (h : store.MovesByRule op next) :
    ∃ row ∈ (store.after op).rows, row.date = next.text := by
  cases h with
  | added htitle hmoves =>
    have hdate := checkedDate_eq_ok_iff.2 ⟨htitle, normalizeDate_of_movesTo hmoves⟩
    simp only [after, add, hdate]
    exact ⟨_, List.mem_append_right _ (List.mem_singleton_self _), rfl⟩
  | @updated id change today next current hfind htitle hmoves =>
    have hdate := checkedDate_eq_ok_iff.2 ⟨htitle, normalizeDate_of_movesTo hmoves⟩
    simp only [after, update, hfind, hdate]
    exact ⟨_, mem_rows_replace_self (find?_eq_some hfind).1 (change.id_applyTo current).symm, rfl⟩
  | completed hfind hmoves =>
    simp only [after, complete, hfind, hmoves]
    exact ⟨_, mem_rows_replace_self (find?_eq_some hfind).1 rfl, rfl⟩

private theorem checkedDate_cases {today : Date} {title date repeatText text : String}
    (htoday : today.HasFourDigitYear) (h : checkedDate today title date repeatText = .ok text) :
    (Date.ofText? text).isSome ∨
      isTitle title = true ∧ ∃ next, MovesTo today date repeatText next ∧ text = next.text := by
  obtain ⟨htitle, hdate⟩ := checkedDate_eq_ok_iff.1 h
  rcases normalizeDate_cases hdate with rfl | ⟨rfl, day, hday, _⟩ | hmoves
  · exact .inl (by rw [Date.ofText?_text htoday]; rfl)
  · exact .inl (by rw [hday]; rfl)
  · exact .inr ⟨htitle, hmoves⟩

/-- A row that an operation leaves was there before, has a date in stored form, or was moved by its
rule. -/
theorem Outcome.mem_rows {result : Except Error Answer} {later : Store}
    (houtcome : Outcome store op result later) (htoday : op.HasFourDigitYear) {row : Task}
    (h : row ∈ later.rows) :
    row ∈ store.rows ∨ (Date.ofText? row.date).isSome ∨
      ∃ next, store.MovesByRule op next ∧ row.date = next.text := by
  cases houtcome with
  | refused => exact .inl h
  | added hdate =>
    rcases List.mem_append.1 h with h | h
    · exact .inl h
    · rw [List.mem_singleton.1 h]
      rcases checkedDate_cases (htoday _ rfl) hdate with hread | ⟨htitle, next, hmoves, htext⟩
      · exact .inr (.inl hread)
      · exact .inr (.inr ⟨next, .added htitle hmoves, htext⟩)
  | updated hfind hdate =>
    rcases mem_rows_replace h with h | rfl
    · exact .inl h
    · rcases checkedDate_cases (htoday _ rfl) hdate with hread | ⟨htitle, next, hmoves, htext⟩
      · exact .inr (.inl hread)
      · exact .inr (.inr ⟨next, .updated hfind htitle hmoves, htext⟩)
  | dated hdate hfind =>
    rcases mem_rows_replace h with h | rfl
    · exact .inl h
    · exact .inr (.inl (by rw [hdate]; rfl))
  | moved hfind hnext =>
    rcases mem_rows_replace h with h | rfl
    · exact .inl h
    · exact .inr (.inr ⟨_, .completed hfind hnext, rfl⟩)
  | finished hfind hdone => exact .inl (mem_rows_of_mem_remove h)
  | removed hfind => exact .inl (mem_rows_of_mem_remove h)

/-- One operation keeps the dates of a store in stored form exactly if it moves no task past the
year 9999. -/
theorem hasReadableDates_after_iff (htoday : op.HasFourDigitYear) (h : store.HasReadableDates) :
    (store.after op).HasReadableDates ↔ ∀ next, store.MovesByRule op next → next.year ≤ 9999 := by
  constructor
  · intro hafter next hmoves
    obtain ⟨row, hrow, hdate⟩ := hmoves.exists_row
    by_contra hyear
    have hread := hafter row hrow
    rw [hdate, Date.ofText?_text_eq_none fun hfits ↦ hyear hfits.2] at hread
    exact absurd hread (by simp)
  · intro hyears row hrow
    rcases (store.outcome op).mem_rows htoday hrow with hold | hread | ⟨next, hmoves, hdate⟩
    · exact h row hold
    · exact hread
    · obtain ⟨today, htext, hlt⟩ := hmoves.lt_next
      have hfirst := (htoday today htext).1
      have := Date.year_le_of_le (le_of_lt hlt)
      rw [hdate, Date.ofText?_text ⟨by omega, hyears next hmoves⟩]
      rfl

/-! ### Runs of operations -/

variable {operations : List Operation}

private theorem afterAll_take_succ {count : Nat} (h : operations[count]? = some op)
    (store : Store) :
    store.afterAll (operations.take (count + 1)) =
      (store.afterAll (operations.take count)).after op := by
  rw [List.take_add_one, h, afterAll, List.foldl_append]
  rfl

/-- A run keeps the dates of a store in stored form exactly as long as it moves no task past the
year 9999. -/
theorem hasReadableDates_afterAll_iff (htoday : ∀ op ∈ operations, op.HasFourDigitYear)
    (h : store.HasReadableDates) :
    (∀ count, (store.afterAll (operations.take count)).HasReadableDates) ↔
      ∀ (count : Nat) op next, operations[count]? = some op →
        (store.afterAll (operations.take count)).MovesByRule op next → next.year ≤ 9999 := by
  constructor
  · intro hall count op next hop
    have hafter := hall (count + 1)
    rw [afterAll_take_succ hop] at hafter
    exact (hasReadableDates_after_iff (htoday op (List.mem_of_getElem? hop)) (hall count)).1
      hafter next
  · intro hyears count
    induction count with
    | zero => exact h
    | succ count ih =>
      cases hop : operations[count]? with
      | none =>
        rw [List.take_add_one, hop]
        simpa using ih
      | some op =>
        rw [afterAll_take_succ hop,
          hasReadableDates_after_iff (htoday op (List.mem_of_getElem? hop)) ih]
        exact fun next ↦ hyears count op next hop

private theorem exists_day_of_mem_rows (htoday : ∀ op ∈ operations, op.HasFourDigitYear) :
    ∀ row ∈ (empty.afterAll operations).rows, ∃ day : Date, row.date = day.text ∧ 0 ≤ day.year := by
  refine List.foldlRecOn
    (motive := fun store ↦ ∀ row ∈ store.rows, ∃ day : Date, row.date = day.text ∧ 0 ≤ day.year)
    operations after (fun row hrow ↦ absurd hrow (not_mem_rows_empty row)) ?_
  intro store ih op hop row hrow
  rcases (store.outcome op).mem_rows (htoday op hop) hrow with
    hold | hread | ⟨next, hmoves, hdate⟩
  · exact ih row hold
  · obtain ⟨day, hday⟩ := Option.isSome_iff_exists.1 hread
    obtain ⟨htext, hyear⟩ := Date.ofText?_eq_some_iff.1 hday
    exact ⟨day, htext, hyear.1⟩
  · obtain ⟨today, htext, hlt⟩ := hmoves.lt_next
    have hfirst := (htoday op hop today htext).1
    have := Date.year_le_of_le (le_of_lt hlt)
    exact ⟨next, hdate, by omega⟩

/-- In a run from the empty store on days of four digits, every date is the text of a day that is
not before year 0. All the dates on the way are in stored form exactly if no operation moves a task
by its rule to a day past the year 9999. -/
theorem stored_dates_of_run (operations : List Operation)
    (htoday : ∀ op ∈ operations, op.HasFourDigitYear) :
    (∀ row ∈ (empty.afterAll operations).rows, ∃ day : Date, row.date = day.text ∧ 0 ≤ day.year) ∧
    ((∀ count, (empty.afterAll (operations.take count)).HasReadableDates) ↔
      ∀ (count : Nat) op next, operations[count]? = some op →
        (empty.afterAll (operations.take count)).MovesByRule op next → next.year ≤ 9999) :=
  ⟨exists_day_of_mem_rows htoday,
    hasReadableDates_afterAll_iff htoday fun row hrow ↦ absurd hrow (not_mem_rows_empty row)⟩

/-- A daily task is added under the last day of the year 9999 and completed. -/
def lastDayRun : List Operation :=
  [.add { title := "Sunrise", date := "99991231", repeatText := "d 1" }
      (.civil 2024 1 26 (by decide)),
    .complete 1 (.civil 2024 1 26 (by decide))]

/-- The run is one on days of four digits. -/
theorem stored_dates_of_lastDayRun :
    (∀ op ∈ lastDayRun, op.HasFourDigitYear) ∧
    (∀ row ∈ (empty.afterAll lastDayRun).rows, ∃ day : Date, row.date = day.text ∧ 0 ≤ day.year) ∧
    ((∀ count, (empty.afterAll (lastDayRun.take count)).HasReadableDates) ↔
      ∀ (count : Nat) op next, lastDayRun[count]? = some op →
        (empty.afterAll (lastDayRun.take count)).MovesByRule op next → next.year ≤ 9999) := by
  have htoday : ∀ op ∈ lastDayRun, op.HasFourDigitYear := by decide
  exact ⟨htoday, stored_dates_of_run lastDayRun htoday⟩

/-- The task ends up under a date that is never read again. -/
theorem not_hasReadableDates_lastDayRun :
    (∀ op ∈ lastDayRun, op.HasFourDigitYear) ∧
    ¬(empty.afterAll lastDayRun).HasReadableDates := by
  decide

end Store

end Agenda
