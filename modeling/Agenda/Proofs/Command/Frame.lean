import Agenda.Program
import Agenda.Proofs.Store.Frame

/-!
# What a command does to the store

A command that is refused leaves the store as it was, and so does one that only reads, or a deletion
that nobody has asked to force and nobody has confirmed. Any other command that runs carries out one
operation (`Command.outcome_run`), which adds, changes or removes one row and leaves all others in
their places (`Command.run_frame`).
-/

namespace Agenda

open Calendar

namespace Store

variable {store later : Store} {old task : Task} {id : Int}

/-- Another row or none has come in the place of a row; all other rows, which have other ids, stay
in their places, and no id has been handed out. -/
def RowBecomes (store : Store) (old : Task) (new : Option Task) (later : Store) : Prop :=
  ∃ before behind, store.rows = before ++ old :: behind ∧
    (∀ row ∈ before ++ behind, row.id ≠ old.id) ∧
    later.rows = before ++ new.toList ++ behind ∧ later.issued = store.issued

private theorem WellKept.exists_rows_eq (h : store.WellKept) (hfind : store.find? id = some old) :
    ∃ before behind, store.rows = before ++ old :: behind ∧
      (∀ row ∈ before, row.id ≠ old.id) ∧ ∀ row ∈ behind, row.id ≠ old.id := by
  obtain ⟨before, behind, hrows⟩ := List.append_of_mem (find?_eq_some hfind).1
  have hids := h.ascending
  rw [ids, hrows, List.map_append, List.map_cons, List.pairwise_append, List.pairwise_cons] at hids
  obtain ⟨-, ⟨hbehind, -⟩, hbefore⟩ := hids
  exact ⟨before, behind, hrows,
    fun row hrow ↦ (hbefore _ (List.mem_map_of_mem hrow) _ List.mem_cons_self).ne,
    fun row hrow ↦ (hbehind _ (List.mem_map_of_mem hrow)).ne'⟩

/-- A replacement puts the task in the place of the row that has its id. -/
theorem WellKept.rowBecomes_replace (h : store.WellKept) (hfind : store.find? id = some old)
    (hid : task.id = id) : store.RowBecomes old (some task) (store.replace task) := by
  obtain ⟨before, behind, hrows, hbefore, hbehind⟩ := h.exists_rows_eq hfind
  have hold : old.id = task.id := (find?_eq_some hfind).2.trans hid.symm
  have hkeep : ∀ rows : List Task, (∀ row ∈ rows, row.id ≠ old.id) →
      rows.map (fun row ↦ if row.id = task.id then task else row) = rows := fun rows hne ↦ by
    conv_rhs => rw [← List.map_id rows]
    exact List.map_congr_left fun row hrow ↦ if_neg (hold ▸ hne row hrow)
  refine ⟨before, behind, hrows, List.forall_mem_append.2 ⟨hbefore, hbehind⟩, ?_, rfl⟩
  rw [Store.replace, hrows, List.map_append, List.map_cons, hkeep before hbefore,
    hkeep behind hbehind, if_pos hold, Option.toList_some, List.append_assoc,
    List.singleton_append]

/-- A removal takes away the row that has the id. -/
theorem WellKept.rowBecomes_remove (h : store.WellKept) (hfind : store.find? id = some old) :
    store.RowBecomes old none (store.remove id) := by
  obtain ⟨before, behind, hrows, hbefore, hbehind⟩ := h.exists_rows_eq hfind
  obtain rfl := (find?_eq_some hfind).2
  have hkeep : ∀ rows : List Task, (∀ row ∈ rows, row.id ≠ old.id) →
      rows.filter (fun row ↦ row.id ≠ old.id) = rows := fun rows hne ↦
    List.filter_eq_self.2 fun row hrow ↦ decide_eq_true (hne row hrow)
  refine ⟨before, behind, hrows, List.forall_mem_append.2 ⟨hbefore, hbehind⟩, ?_, rfl⟩
  rw [Store.remove, hrows, List.filter_append, List.filter_cons_of_neg (by simp),
    hkeep before hbefore, hkeep behind hbehind, Option.toList_none, List.append_nil]

/-- An operation leads from a store that comes about to one that comes about. -/
theorem Reachable.after (h : store.Reachable) (op : Operation) : (store.after op).Reachable := by
  obtain ⟨operations, rfl⟩ := h
  exact ⟨operations ++ [op], by rw [afterAll, afterAll, List.foldl_append]; rfl⟩

end Store

namespace Command

variable {config : Config} {clock today : Date} {confirmed : Bool} {store later : Store}
  {command : Command} {result : Except CommandError String}

/-- The command changes nothing even if it succeeds. -/
def onlyReads (confirmed : Bool) : Command → Bool
  | .list .. | .display .. | .nextDate .. => true
  | .delete _ force => !(force || confirmed)
  | .add .. | .edit .. | .finish _ => false

/-- The operation is what the command asks for, with some current day and some day read from its
date argument. -/
inductive AsksFor (confirmed : Bool) : Command → Store.Operation → Prop
  | add {title : String} {date comment repeatText : Option String} (day : Option String)
      (today : Date) :
      AsksFor confirmed (.add title date comment repeatText)
        (.add { title, date := day.getD "", comment := comment.getD "",
                repeatText := repeatText.getD "" } today)
  | edit {id : Int} {title date comment repeatText : Option String}
      {clearComment clearRepeat : Bool} (day : Option String) (today : Date) :
      AsksFor confirmed (.edit id title date comment repeatText clearComment clearRepeat)
        (.update id (editedFields title day comment repeatText clearComment clearRepeat) today)
  | finish {id : Int} (today : Date) : AsksFor confirmed (.finish id) (.complete id today)
  | delete {id : Int} {force : Bool} (h : (force || confirmed) = true) :
      AsksFor confirmed (.delete id force) (.delete id)

/-- What a command answers and makes of a store. -/
inductive Outcome (confirmed : Bool) (store : Store) :
    Command → Except CommandError String → Store → Prop
  /-- A refused command does nothing. -/
  | refused (command : Command) (e : CommandError) :
      Outcome confirmed store command (.error e) store
  /-- A command that reads only prints something. -/
  | answered {command : Command} (h : command.onlyReads confirmed = true) (text : String) :
      Outcome confirmed store command (.ok text) store
  /-- Any other command carries out one operation. -/
  | carriedOut {command : Command} {op : Store.Operation} {answer : Store.Answer}
      (hasks : AsksFor confirmed command op) (h : store.answer op = .ok answer) (text : String) :
      Outcome confirmed store command (.ok text) (store.after op)

private theorem Outcome.of_printed {α : Type} {op : Store.Operation} {wrap : α → Store.Answer}
    {done : Except Error α × Store} (hasks : AsksFor confirmed command op)
    (hanswer : store.answer op = done.1.map wrap) (hafter : store.after op = done.2)
    (print : α → String) :
    Outcome confirmed store command (printed print done).1 (printed print done).2 := by
  obtain ⟨answer, later⟩ := done
  obtain rfl : store.after op = later := hafter
  cases answer with
  | error e =>
    have houtcome := store.outcome op
    rw [hanswer] at houtcome
    rw [houtcome.eq_of_error]
    exact .refused command _
  | ok a => exact .carriedOut hasks hanswer _

/-- The result of a command and the store after it belong together. -/
theorem outcome_runOn (config : Config) (today : Date) (confirmed : Bool) (store : Store)
    (command : Command) :
    Outcome confirmed store command (runOn config today confirmed store command).1
      (runOn config today confirmed store command).2 := by
  cases command with
  | add title date comment repeatText =>
    cases hdate : optionalDateArgument date today with
    | error e =>
      simp only [runOn, hdate]
      exact .refused _ _
    | ok day =>
      simp only [runOn, hdate]
      exact .of_printed (.add day today) rfl rfl _
  | list search limit json =>
    cases hlist : store.list search (limit.getD config.searchLimit) with
    | error e =>
      simp only [runOn, hlist]
      exact .refused _ _
    | ok tasks =>
      simp only [runOn, hlist]
      exact .answered rfl _
  | display id json =>
    cases hfind : store.find? id with
    | none =>
      simp only [runOn, hfind]
      exact .refused _ _
    | some task =>
      simp only [runOn, hfind]
      exact .answered rfl _
  | edit id title date comment repeatText clearComment clearRepeat =>
    cases hdate : optionalDateArgument date today with
    | error e =>
      simp only [runOn, hdate]
      exact .refused _ _
    | ok day =>
      simp only [runOn, hdate]
      split
      · exact .refused _ _
      · exact .of_printed (.edit day today) rfl rfl _
  | finish id => exact .of_printed (.finish today) rfl rfl _
  | delete id force =>
    cases hfind : store.find? id with
    | none =>
      simp only [runOn, hfind]
      exact .refused _ _
    | some task =>
      simp only [runOn, hfind]
      split
      · next hforce => exact .of_printed (.delete hforce) rfl rfl _
      · next hforce =>
        have hreads : (Command.delete id force).onlyReads confirmed = true := by
          rw [onlyReads, Bool.eq_false_of_not_eq_true hforce]
          rfl
        exact .answered hreads _
  | nextDate now date repeatText =>
    cases htell : tellNextDate now date repeatText today with
    | error e =>
      simp only [runOn, htell]
      exact .refused _ _
    | ok text =>
      simp only [runOn, htell]
      exact .answered rfl _

/-- A command that does not come to know the current day is refused. -/
theorem outcome_run (config : Config) (clock : Date) (confirmed : Bool) (store : Store)
    (invocation : Invocation) :
    Outcome confirmed store invocation.command (run config clock confirmed store invocation).1
      (run config clock confirmed store invocation).2 := by
  unfold run
  split
  · exact .refused _ _
  · exact outcome_runOn config _ confirmed store _

/-- What a command that succeeds makes of a store. -/
def Effect (confirmed : Bool) (store later : Store) : Command → Prop
  | .list .. | .display .. | .nextDate .. => later = store
  | .add title _ comment repeatText =>
    ∃ date, later = ⟨store.rows ++ [{
      id := store.nextId, date, title, comment := comment.getD "",
      repeatText := repeatText.getD "" }], store.issued + 1⟩
  | .edit id title _ comment repeatText clearComment clearRepeat =>
    ∃ old date, old.id = id ∧ store.RowBecomes old (some {
      (editedFields title none comment repeatText clearComment clearRepeat).applyTo old
        with date }) later
  | .finish id =>
    ∃ old, old.id = id ∧
      if old.repeatText = "" then store.RowBecomes old none later
      else ∃ date, store.RowBecomes old (some { old with date }) later
  | .delete id force =>
    if force || confirmed then ∃ old, old.id = id ∧ store.RowBecomes old none later
    else later = store

private theorem AsksFor.effect {op : Store.Operation} {answer : Store.Answer}
    (hkept : store.WellKept) (hasks : AsksFor confirmed command op)
    (h : store.Outcome op (.ok answer) later) : command.Effect confirmed store later := by
  cases hasks with
  | add day today =>
    cases h with
    | added hdate => exact ⟨_, rfl⟩
  | edit day today =>
    cases h with
    | updated hfind hdate =>
      have hid := (Store.find?_eq_some hfind).2
      exact ⟨_, _, hid, hkept.rowBecomes_replace hfind hid⟩
  | finish today =>
    cases h with
    | moved hfind hnext =>
      have hid := (Store.find?_eq_some hfind).2
      refine ⟨_, hid, ?_⟩
      -- A task that has moved repeats, since any other one goes when it is completed.
      rw [if_neg fun hnone ↦ ?_]
      · exact ⟨_, hkept.rowBecomes_replace hfind hid⟩
      · rw [complete_eq_delete_iff.2 hnone] at hnext
        exact absurd hnext (by simp)
    | finished hfind hdone =>
      refine ⟨_, (Store.find?_eq_some hfind).2, ?_⟩
      rw [if_pos (complete_eq_delete_iff.1 hdone)]
      exact hkept.rowBecomes_remove hfind
  | delete hforce =>
    cases h with
    | removed hfind =>
      rw [Effect, if_pos hforce]
      exact ⟨_, (Store.find?_eq_some hfind).2, hkept.rowBecomes_remove hfind⟩

namespace Outcome

/-- A refused command leaves the store alone. -/
theorem eq_of_error {e : CommandError} (h : Outcome confirmed store command (.error e) later) :
    later = store := by
  cases h with
  | refused => rfl

/-- A command that succeeds has its effect. -/
theorem effect (hkept : store.WellKept) {text : String}
    (h : Outcome confirmed store command (.ok text) later) :
    command.Effect confirmed store later := by
  cases h with
  | answered hreads =>
    cases command with
    | list | display | nextDate => rfl
    | delete id force =>
      rw [onlyReads, Bool.not_eq_true'] at hreads
      rw [Effect, if_neg (by simp [hreads])]
    | add | edit | finish => exact absurd hreads (by simp [onlyReads])
  | @carriedOut op _ hasks hanswer =>
    have houtcome := store.outcome op
    rw [hanswer] at houtcome
    exact hasks.effect hkept houtcome

/-- A command leads from a store that comes about to one that comes about. -/
theorem reachable (hstore : store.Reachable) (h : Outcome confirmed store command result later) :
    later.Reachable := by
  cases h with
  | refused => exact hstore
  | answered => exact hstore
  | carriedOut => exact hstore.after _

end Outcome

/-- What a command does to a store that comes about, whoever confirms a deletion. If it is refused,
the store stays as it was, with its next id. If it succeeds, then listing, showing, telling a next
date and a deletion that is neither forced nor confirmed leave the store as it was as well; an
addition puts one row at the end; an edit changes the row that it names and no other; finishing a
task gives its row another date, or takes it away exactly if it does not repeat; and a deletion
takes away the row that it names. -/
theorem run_frame (hstore : store.Reachable) (config : Config) (clock : Date) (confirmed : Bool)
    (invocation : Invocation) :
    (∀ e, (run config clock confirmed store invocation).1 = .error e →
      (run config clock confirmed store invocation).2 = store) ∧
    ∀ text, (run config clock confirmed store invocation).1 = .ok text →
      invocation.command.Effect confirmed store
        (run config clock confirmed store invocation).2 := by
  have houtcome := outcome_run config clock confirmed store invocation
  constructor
  · intro e herror
    rw [herror] at houtcome
    exact houtcome.eq_of_error
  · intro text hok
    rw [hok] at houtcome
    exact houtcome.effect hstore.wellKept

/-- Deleting the first of two tasks when asked about it. -/
theorem run_frame_confirmed_delete :
    let asked : Invocation := ⟨some "20240126", .delete 1 false⟩
    let done := run (.defaults { environment := [] }) (.civil 2024 1 26 (by decide)) true
      Store.twoTasks asked
    Store.twoTasks.Reachable ∧ done.1 = .ok "Deleted task: 'Rent'\n" ∧
      Effect true Store.twoTasks done.2 asked.command := by
  have hreachable : Store.twoTasks.Reachable :=
    ⟨[.add { title := "Rent" } (.civil 2024 1 26 (by decide)),
      .add { title := "Walk", date := "20240127", repeatText := "d 1" }
        (.civil 2024 1 26 (by decide))], by decide⟩
  have hdone : (run (.defaults { environment := [] }) (.civil 2024 1 26 (by decide)) true
      Store.twoTasks ⟨some "20240126", .delete 1 false⟩).1 = .ok "Deleted task: 'Rent'\n" := by
    decide
  exact ⟨hreachable, hdone, (run_frame hreachable _ _ _ _).2 _ hdone⟩

end Command

namespace Program

variable {config : Config} {clock : Date} {store : Store}

/-- A run that ends with an error code leaves the store alone. -/
theorem run_of_exitCode_ne_zero {arguments : List String}
    (h : (run config clock store arguments).1.exitCode ≠ 0) :
    (run config clock store arguments).2 = store := by
  unfold run at h ⊢
  split at h
  · rfl
  · next invocation hread =>
    have houtcome := Command.outcome_run config clock false store invocation
    have hcode : (Outcome.finished
      (Command.run config clock false store invocation).1).exitCode ≠ 0 := h
    cases hresult : (Command.run config clock false store invocation).1 with
    | error e =>
      rw [hresult] at houtcome
      exact houtcome.eq_of_error
    | ok text =>
      rw [hresult] at hcode
      exact absurd rfl hcode

/-- A run leads from a store that comes about to one that comes about. -/
theorem reachable_run (hstore : store.Reachable) (config : Config) (clock : Date)
    (arguments : List String) : (run config clock store arguments).2.Reachable := by
  unfold run
  split
  · exact hstore
  · exact (Command.outcome_run config clock false store _).reachable hstore

/-- The store after any number of runs comes about by operations. -/
theorem reachable_runAll (hstore : store.Reachable) (config : Config) (clock : Date)
    (commandLines : List (List String)) :
    (runAll (run config clock) store commandLines).2.Reachable := by
  induction commandLines generalizing store with
  | nil => exact hstore
  | cons arguments rest ih => exact ih (reachable_run hstore config clock arguments)

end Program

end Agenda
