import Agenda.Proofs.Schedule.Settled
import Agenda.Proofs.Store.Frame

/-!
# Why an operation is refused

An operation that names a row which must be there is refused before anything else if the row is
missing; only a date that is to be set is read first. A task that is added or changed is refused for
its title, or else for its rule, its date or what the rule makes of the date; one that is completed
for its date or its rule. These are all the reasons (`Store.WellKept.answer_eq_error_iff`), so every
other operation succeeds (`Store.refusals`).
-/

namespace Agenda

open Calendar

/-- Why a task with this title, date and repeat rule is not taken in: its title is blank, or else it
is refused for its rule or its date. -/
inductive Unfit (today : Date) (title date repeatText : String) : Error → Prop where
  | title (hblank : ∀ c ∈ title.toList, Text.isBlank c = true) :
    Unfit today title date repeatText .missingTitle
  | schedule {e : Error} (htitle : ∃ c ∈ title.toList, Text.isBlank c = false)
    (hrefused : Refused today date repeatText e) : Unfit today title date repeatText e

/-- Why a repeating task is not moved to a next date: its date cannot be read, or else its rule has
no next one. -/
inductive Stuck (today : Date) (task : Task) : Error → Prop where
  | date (hdate : Date.ofText? task.date = none) : Stuck today task (.invalidDate task.date)
  | rule {rule : Rule} {day : Date} (hrule : Rule.parse task.repeatText = .ok rule)
    (hdate : Date.ofText? task.date = some day)
    (hnext : ¬∃ next, nextDate today day rule = .ok next) :
    Stuck today task (.unsatisfiableRule rule.text)

section Reasons

variable {today : Date} {title date repeatText : String} {task : Task} {e : Error}

private theorem isTitle_eq_false_iff :
    isTitle title = false ↔ ∀ c ∈ title.toList, Text.isBlank c = true := by
  simp [isTitle, Text.allBlank]

/-- A rule, or a date with it, is refused for what the caller has given. -/
theorem Refused.isValidation (h : Refused today date repeatText e) : e.isValidation = true := by
  cases h with
  | rule _ hrule => cases Rule.isFault_of_parse hrule <;> rfl
  | date _ _ _ => rfl
  | unsatisfiable _ _ _ _ => rfl

/-- A task is not taken in for what the caller has given. -/
theorem Unfit.isValidation (h : Unfit today title date repeatText e) : e.isValidation = true := by
  cases h with
  | title _ => rfl
  | schedule _ hrefused => exact hrefused.isValidation

/-- A task is not moved for what it has as date and rule. -/
theorem Stuck.isValidation (h : Stuck today task e) : e.isValidation = true := by
  cases h with
  | date _ => rfl
  | rule _ _ _ => rfl

/-- A repeating task is not completed exactly where it cannot be moved. -/
theorem complete_eq_error_iff {rule : Rule} (hrule : Rule.parse task.repeatText = .ok rule) :
    complete today task.date task.repeatText = .error e ↔ Stuck today task e := by
  cases hdate : Date.ofText? task.date with
  | none =>
    rw [complete_of_ofText?_eq_none hrule hdate, Except.error.injEq]
    constructor
    · rintro rfl
      exact .date hdate
    · intro h
      cases h with
      | date _ => rfl
      | rule _ hread _ => exact absurd (hdate.symm.trans hread) (by simp)
  | some day =>
    rw [complete_of_ofText?_eq_some hrule hdate, map_eq_error_iff,
      nextDate_eq_error_iff_of_parse hrule]
    constructor
    · rintro ⟨rfl, hnext⟩
      exact .rule hrule hdate hnext
    · intro h
      cases h with
      | date hread => exact absurd (hdate.symm.trans hread) (by simp)
      | rule hparse hread hnext =>
        obtain rfl := Except.ok.inj (hrule.symm.trans hparse)
        obtain rfl := Option.some.inj (hdate.symm.trans hread)
        exact ⟨rfl, hnext⟩

end Reasons

namespace Store

variable {store : Store} {op : Operation} {id : Int} {today : Date} {current : Task} {e : Error}

/-- No row has the id. -/
def Lacks (store : Store) (id : Int) : Prop := ∀ row ∈ store.rows, row.id ≠ id

/-- No row is found under an id that no row has. -/
theorem find?_eq_none_iff : store.find? id = none ↔ store.Lacks id := by
  unfold find? Lacks
  rw [List.find?_eq_none]
  simp only [beq_iff_eq, ne_eq]

/-- The row that an operation looks up before it does anything else. -/
def Operation.looksUp? : Operation → Option Int
  | .update id _ _ => some id
  | .complete id _ => some id
  | .delete id => some id
  | .add .. | .setDate .. => none

/-- Why an operation on a store is refused. -/
inductive Refusal (store : Store) : Operation → Error → Prop where
  /-- The row that is looked up first is missing. -/
  | missing {op : Operation} {id : Int} (hid : op.looksUp? = some id) (hnone : store.Lacks id) :
    Refusal store op (.taskNotFound id)
  /-- The new task is not taken in. -/
  | added {new : NewTask} {today : Date} {e : Error}
    (h : Unfit today new.title new.date new.repeatText e) : Refusal store (.add new today) e
  /-- The task as changed is not taken in. -/
  | updated {id : Int} {change : TaskUpdate} {today : Date} {current : Task} {e : Error}
    (hfind : store.find? id = some current)
    (h : Unfit today (change.applyTo current).title (change.applyTo current).date
      (change.applyTo current).repeatText e) : Refusal store (.update id change today) e
  /-- The date to set cannot be read. -/
  | unreadable {id : Int} {text : String} (hdate : Date.ofText? text = none) :
    Refusal store (.setDate id text) (.invalidDate text)
  /-- The row whose date is to be set is missing. -/
  | undated {id : Int} {text : String} {day : Date} (hdate : Date.ofText? text = some day)
    (hnone : store.Lacks id) : Refusal store (.setDate id text) (.taskNotFound id)
  /-- The task to complete repeats and cannot be moved. -/
  | completed {id : Int} {today : Date} {current : Task} {e : Error}
    (hfind : store.find? id = some current) (hrepeat : current.repeatText ≠ "")
    (h : Stuck today current e) : Refusal store (.complete id today) e

/-- A title, a date and a rule are refused exactly where they are unfit. -/
theorem checkedDate_eq_error_iff {title date repeatText : String} :
    checkedDate today title date repeatText = .error e ↔ Unfit today title date repeatText e := by
  unfold checkedDate
  constructor
  · intro h
    split at h
    · next htitle =>
      exact .schedule (isTitle_eq_true_iff.1 htitle) (normalizeDate_eq_error_iff.1 h)
    · next htitle =>
      rw [← Except.error.inj h]
      exact .title (isTitle_eq_false_iff.1 (Bool.eq_false_of_not_eq_true htitle))
  · intro h
    cases h with
    | title hblank =>
      rw [isTitle_eq_false_iff.2 hblank]
      rfl
    | schedule htitle hrefused =>
      rw [isTitle_eq_true_iff.2 htitle]
      exact normalizeDate_eq_error_iff.2 hrefused

/-! ### Each kind of operation -/

/-- An addition is refused exactly where the task is unfit. -/
theorem answer_add_eq_error_iff {new : NewTask} :
    store.answer (.add new today) = .error e ↔
      Unfit today new.title new.date new.repeatText e := by
  rw [← checkedDate_eq_error_iff, answer, map_eq_error_iff, add]
  cases checkedDate today new.title new.date new.repeatText with
  | error found => simp
  | ok date => simp

/-- A change to a row is refused exactly where the changed task is unfit. -/
theorem answer_update_eq_error_iff (hfind : store.find? id = some current) {change : TaskUpdate} :
    store.answer (.update id change today) = .error e ↔
      Unfit today (change.applyTo current).title (change.applyTo current).date
        (change.applyTo current).repeatText e := by
  rw [← checkedDate_eq_error_iff, answer, map_eq_error_iff]
  simp only [update, hfind]
  cases checkedDate today (change.applyTo current).title (change.applyTo current).date
      (change.applyTo current).repeatText with
  | error found => simp
  | ok date => simp

/-- A completion is refused exactly where the task is. -/
theorem answer_complete_eq_error_iff (hfind : store.find? id = some current) :
    store.answer (.complete id today) = .error e ↔
      Agenda.complete today current.date current.repeatText = .error e := by
  rw [answer, map_eq_error_iff]
  simp only [complete, hfind]
  cases Agenda.complete today current.date current.repeatText with
  | error found => simp
  | ok completion => cases completion <;> simp

private theorem answer_of_lacks (hid : op.looksUp? = some id) (hnone : store.Lacks id) :
    store.answer op = .error (.taskNotFound id) := by
  have hfind := find?_eq_none_iff.2 hnone
  cases op with
  | add new today => exact absurd hid (by simp [Operation.looksUp?])
  | setDate other text => exact absurd hid (by simp [Operation.looksUp?])
  | update other change today =>
    obtain rfl := Option.some.inj hid
    simp only [answer, update, hfind]
    rfl
  | complete other today =>
    obtain rfl := Option.some.inj hid
    simp only [answer, complete, hfind]
    rfl
  | delete other =>
    obtain rfl := Option.some.inj hid
    simp only [answer, delete, hfind]
    rfl

/-- A deletion of a row succeeds. -/
theorem answer_delete (hfind : store.find? id = some current) :
    store.answer (.delete id) = .ok .done := by
  simp only [answer, delete, hfind]
  rfl

/-- Setting a date is refused for a date that cannot be read, and otherwise for a missing row. -/
theorem answer_setDate_eq_error_iff {text : String} :
    store.answer (.setDate id text) = .error e ↔ store.Refusal (.setDate id text) e := by
  constructor
  · intro h
    rw [answer, map_eq_error_iff] at h
    cases hdate : Date.ofText? text with
    | none =>
      simp only [setDate, readDate_of_ofText?_eq_none hdate, Except.error.injEq] at h
      exact h ▸ .unreadable hdate
    | some day =>
      cases hfind : store.find? id with
      | none =>
        simp only [setDate, readDate_of_ofText?_eq_some hdate, hfind, Except.error.injEq] at h
        exact h ▸ .undated hdate (find?_eq_none_iff.1 hfind)
      | some current =>
        simp only [setDate, readDate_of_ofText?_eq_some hdate, hfind, reduceCtorEq] at h
  · intro h
    rw [answer, map_eq_error_iff]
    cases h with
    | missing hid _ => exact absurd hid (by simp [Operation.looksUp?])
    | unreadable hdate => simp only [setDate, readDate_of_ofText?_eq_none hdate]
    | undated hdate hnone =>
      simp only [setDate, readDate_of_ofText?_eq_some hdate, find?_eq_none_iff.2 hnone]

/-! ### All operations -/

/-- A row of a well-kept store that repeats has a rule that can be read. -/
theorem WellKept.exists_parse (hkept : store.WellKept) (hfind : store.find? id = some current)
    (hrepeat : current.repeatText ≠ "") : ∃ rule, Rule.parse current.repeatText = .ok rule :=
  (hkept.valid current (find?_eq_some hfind).1).2.resolve_left hrepeat

private theorem WellKept.refusal_of_answer (hkept : store.WellKept)
    (h : store.answer op = .error e) : store.Refusal op e := by
  have hlacks {id : Int} (hid : op.looksUp? = some id) (hfind : store.find? id = none) :
      store.Refusal op e := by
    have hnone := find?_eq_none_iff.1 hfind
    rw [answer_of_lacks hid hnone] at h
    exact Except.error.inj h ▸ .missing hid hnone
  cases op with
  | add new today => exact .added (answer_add_eq_error_iff.1 h)
  | setDate id text => exact answer_setDate_eq_error_iff.1 h
  | update id change today =>
    cases hfind : store.find? id with
    | none => exact hlacks rfl hfind
    | some current => exact .updated hfind ((answer_update_eq_error_iff hfind).1 h)
  | complete id today =>
    cases hfind : store.find? id with
    | none => exact hlacks rfl hfind
    | some current =>
      rw [answer_complete_eq_error_iff hfind] at h
      -- A task that does not repeat is never refused.
      have hrepeat : current.repeatText ≠ "" := by
        intro hempty
        rw [hempty, complete_empty] at h
        exact absurd h (by simp)
      obtain ⟨rule, hrule⟩ := hkept.exists_parse hfind hrepeat
      exact .completed hfind hrepeat ((complete_eq_error_iff hrule).1 h)
  | delete id =>
    cases hfind : store.find? id with
    | none => exact hlacks rfl hfind
    | some current =>
      rw [answer_delete hfind] at h
      exact absurd h (by simp)

private theorem WellKept.answer_of_refusal (hkept : store.WellKept) (h : store.Refusal op e) :
    store.answer op = .error e := by
  cases h with
  | missing hid hnone => exact answer_of_lacks hid hnone
  | added h => exact answer_add_eq_error_iff.2 h
  | updated hfind h => exact (answer_update_eq_error_iff hfind).2 h
  | unreadable hdate => exact answer_setDate_eq_error_iff.2 (.unreadable hdate)
  | undated hdate hnone => exact answer_setDate_eq_error_iff.2 (.undated hdate hnone)
  | completed hfind hrepeat h =>
    obtain ⟨rule, hrule⟩ := hkept.exists_parse hfind hrepeat
    rw [answer_complete_eq_error_iff hfind]
    exact (complete_eq_error_iff hrule).2 h

/-- An operation is refused exactly where there is a reason. -/
theorem WellKept.answer_eq_error_iff (hkept : store.WellKept) :
    store.answer op = .error e ↔ store.Refusal op e :=
  ⟨hkept.refusal_of_answer, hkept.answer_of_refusal⟩

private theorem Refusal.lacks (hid : op.looksUp? = some id)
    (h : store.Refusal op (.taskNotFound id)) : store.Lacks id := by
  cases h with
  | missing _ hnone => exact hnone
  | added h => exact absurd h.isValidation (by simp [Error.isValidation])
  | updated _ h => exact absurd h.isValidation (by simp [Error.isValidation])
  | undated _ hnone => exact hnone
  | completed _ _ h => exact absurd h.isValidation (by simp [Error.isValidation])

/-- Which operations on a store that comes about are refused, and why. An operation is refused
exactly where one of the reasons applies, of which each holds only where no earlier one does; every
other operation succeeds. An operation that looks up a row first reports it as missing exactly if no
row has the id. Completing a row that does not repeat succeeds, whatever its date, and completing
one that does is refused only for its date or for having no next one. -/
theorem refusals (hstore : store.Reachable) :
    (∀ op e, store.answer op = .error e ↔ store.Refusal op e) ∧
    (∀ op, (∃ answer, store.answer op = .ok answer) ↔ ¬∃ e, store.Refusal op e) ∧
    (∀ op id, op.looksUp? = some id →
      (store.answer op = .error (.taskNotFound id) ↔ ∀ row ∈ store.rows, row.id ≠ id)) ∧
    ∀ id today current, store.find? id = some current →
      (current.repeatText = "" →
        store.answer (.complete id today) = .ok (.completed (.deleted current))) ∧
      ∀ e, store.answer (.complete id today) = .error e →
        e = .invalidDate current.date ∨
          ∃ rule, Rule.parse current.repeatText = .ok rule ∧ e = .unsatisfiableRule rule.text := by
  have hkept := hstore.wellKept
  refine ⟨?_, ?_, ?_, ?_⟩
  · intro op e
    exact hkept.answer_eq_error_iff
  · intro op
    simp only [← hkept.answer_eq_error_iff]
    cases store.answer op with
    | error e => simp
    | ok answer => simp
  · intro op id hid
    rw [hkept.answer_eq_error_iff]
    constructor
    · exact Refusal.lacks hid
    · exact Refusal.missing hid
  · intro id today current hfind
    constructor
    · intro hempty
      exact answer_complete_eq_deleted_iff.2 ⟨hfind, hempty⟩
    · intro e h
      cases hkept.refusal_of_answer h with
      | missing hid hnone =>
        obtain rfl := Option.some.inj hid
        exact absurd (hfind.symm.trans (find?_eq_none_iff.2 hnone)) (by simp)
      | completed hrow _ hstuck =>
        obtain rfl := Option.some.inj (hfind.symm.trans hrow)
        cases hstuck with
        | date _ => exact .inl rfl
        | rule hrule _ _ => exact .inr ⟨_, hrule, rfl⟩

/-- A one-off task and a daily one, both added after the year 9999, so that neither date is read
again. -/
def lateTasks : Store :=
  empty.afterAll
    [.add { title := "Once" } (.civil 10000 1 1 (by decide)),
      .add { title := "Daily", repeatText := "d 1" } (.civil 10000 1 1 (by decide))]

/-- The one-off task can be completed and the daily one cannot; a third one is missing, but a date
that is none is reported first. -/
theorem refusals_lateTasks :
    lateTasks.Reachable ∧
    lateTasks.answer (.complete 1 (.civil 10000 1 2 (by decide))) =
      .ok (.completed (.deleted
        { id := 1, date := "+100000101", title := "Once", comment := "", repeatText := "" })) ∧
    lateTasks.answer (.complete 2 (.civil 10000 1 2 (by decide))) =
      .error (.invalidDate "+100000101") ∧
    lateTasks.answer (.update 3 { title := some "" } (.civil 10000 1 2 (by decide))) =
      .error (.taskNotFound 3) ∧
    lateTasks.answer (.setDate 3 "20240230") = .error (.invalidDate "20240230") := by
  have hreachable : lateTasks.Reachable := ⟨_, rfl⟩
  obtain ⟨hreasons, _, hmissing, hcomplete⟩ := refusals hreachable
  have hdaily : lateTasks.find? 2 =
      some { id := 2, date := "+100000101", title := "Daily", comment := "",
             repeatText := "d 1" } := by
    decide
  refine ⟨hreachable, ?_, ?_, ?_, ?_⟩
  · exact (hcomplete 1 _ _ (by decide)).1 rfl
  · exact (hreasons _ _).2 (.completed hdaily (by decide) (.date (by decide)))
  · exact (hmissing _ 3 rfl).2 (by decide)
  · exact (hreasons _ _).2 (.unreadable (by decide))

end Store

end Agenda
