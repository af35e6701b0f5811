import Agenda.Command.Run
import Agenda.Json.Records
import Agenda.Proofs.Json.Value
import Agenda.Proofs.Store.Listing

/-!
# Records and their JSON texts

A task whose id fits a 64-bit word, a new task and a listing of such tasks are read back from the
compact and from the indented text, so what commands print as JSON can be read again. Whatever was
read from some text is such a record, so writing it again changes nothing the second time
(`Json.record_round_trip`).
-/

namespace Agenda

namespace Json

section Records

variable {α : Type}

/-- Reads a record from a JSON text. -/
def readText? (read : Json → Option α) (text : String) : Option α := (ofText? text).bind read

/-- A record is read back from its texts. -/
structure ReadsBack (write : α → Json) (read : Json → Option α) (a : α) : Prop where
  /-- The compact text. -/
  compact : readText? read (write a).compactText = some a
  /-- The indented text. -/
  indented : readText? read (write a).indentedText = some a
  /-- The indented text with the end of line that a command prints behind it. -/
  line : readText? read ((write a).indentedText ++ "\n") = some a

/-- A text read as a record and written again. -/
def rewritten? (write : α → Json) (read : Json → Option α) (print : Json → String)
    (text : String) : Option String :=
  (readText? read text).map fun a ↦ print (write a)

/-- A text that was read and written again stays as it is when this is done once more. -/
def Settles (write : α → Json) (read : Json → Option α) : Prop :=
  ∀ print ∈ [compactText, indentedText], ∀ text written,
    rewritten? write read print text = some written →
      rewritten? write read print written = some written

variable {write : α → Json} {read : Json → Option α} {a : α}

private theorem readsBack_of_hasNoNumber (htokens : (write a).HasNoNumber)
    (h : read (write a) = some a) : ReadsBack write read a := by
  have hindented := ofText?_indentedText htokens
  constructor
  · rw [readText?, ofText?_compactText htokens, Option.bind_some, h]
  · rw [readText?, hindented.1, Option.bind_some, h]
  · rw [readText?, hindented.2, Option.bind_some, h]

private theorem settles_of_readsBack
    (h : ∀ text a, readText? read text = some a → ReadsBack write read a) :
    Settles write read := by
  intro print hprint text written hwritten
  obtain ⟨a, hread, rfl⟩ := Option.map_eq_some_iff.1 hwritten
  have hback : readText? read (print (write a)) = some a := by
    rw [List.mem_cons, List.mem_singleton] at hprint
    rcases hprint with rfl | rfl
    · exact (h text a hread).compact
    · exact (h text a hread).indented
  rw [rewritten?, hback, Option.map_some]

end Records

end Json

open Calendar Json

/-! ### Tasks -/

private theorem Text.isInt64_of_readInt64? {cs : List Char} {n : Int} (h : readInt64? cs = some n) :
    IsInt64 n := by
  simpa using (Option.filter_eq_some_iff.1 h).2

namespace Task

variable {task : Task} {json : Json}

/-- The value of a task is read as the task. -/
theorem ofJson?_toJson (h : Text.IsInt64 task.id) : ofJson? task.toJson = some task := by
  have hfields : task.toJson.fieldValues? ["id", "date", "title", "comment", "repeat"] =
      some [some (.ofText (String.ofList (Text.decimal task.id))), some (.ofText task.date),
        some (.ofText task.title), some (.ofText task.comment),
        some (.ofText task.repeatText)] := by
    simp [toJson, fieldValues?, soleField?]
  unfold ofJson?
  rw [hfields]
  simp [requiredText?, optionalText?, text?, Json.ofText, Text.readInt64?_decimal, h]

/-- The id of a task that was read fits 64 bits. -/
theorem isInt64_of_ofJson? (h : ofJson? json = some task) : Text.IsInt64 task.id := by
  unfold ofJson? at h
  simp only [Option.bind_eq_bind, Option.bind_eq_some_iff] at h
  obtain ⟨values, _, h⟩ := h
  split at h
  · simp only [Option.bind_eq_some_iff] at h
    obtain ⟨_, _, id, hid, _, _, _, _, _, _, _, _, h⟩ := h
    rw [← Option.some.inj h]
    exact Text.isInt64_of_readInt64? hid
  · exact absurd h (by simp)

private theorem hasNoNumber_toJson (task : Task) : task.toJson.HasNoNumber :=
  hasNoNumber_object (by simp [hasNoNumber_ofText])

/-- A task is read back from its texts. -/
theorem readsBack (h : Text.IsInt64 task.id) : ReadsBack toJson ofJson? task :=
  readsBack_of_hasNoNumber task.hasNoNumber_toJson (ofJson?_toJson h)

end Task

/-- A new task is read back from its texts. -/
theorem NewTask.readsBack (new : NewTask) : ReadsBack toJson ofJson? new := by
  have hfields : new.toJson.fieldValues? ["title", "date", "comment", "repeat"] =
      some [some (.ofText new.title), some (.ofText new.date), some (.ofText new.comment),
        some (.ofText new.repeatText)] := by
    simp [toJson, fieldValues?, soleField?]
  apply readsBack_of_hasNoNumber
  · exact hasNoNumber_object (by simp [hasNoNumber_ofText])
  · unfold ofJson?
    rw [hfields]
    simp [requiredText?, optionalText?, text?, Json.ofText]

/-! ### Listings -/

namespace TaskList

variable {list : TaskList} {json : Json}

private theorem mapM_ofJson?_map_toJson {tasks : List Task}
    (h : ∀ task ∈ tasks, Text.IsInt64 task.id) :
    (tasks.map Task.toJson).mapM Task.ofJson? = some tasks := by
  induction tasks with
  | nil => rfl
  | cons task tasks ih =>
    rw [List.forall_mem_cons] at h
    rw [List.map_cons, List.mapM_cons, Task.ofJson?_toJson h.1, ih h.2]
    rfl

private theorem isInt64_of_mapM_ofJson? {items : List Json} {tasks : List Task}
    (h : items.mapM Task.ofJson? = some tasks) : ∀ task ∈ tasks, Text.IsInt64 task.id := by
  induction items generalizing tasks with
  | nil =>
    obtain rfl : [] = tasks := Option.some.inj h
    exact fun _ htask ↦ absurd htask List.not_mem_nil
  | cons item items ih =>
    rw [List.mapM_cons] at h
    obtain ⟨task, htask, h⟩ := Option.bind_eq_some_iff.1 h
    obtain ⟨rest, hrest, h⟩ := Option.bind_eq_some_iff.1 h
    obtain rfl : task :: rest = tasks := Option.some.inj h
    exact List.forall_mem_cons.2 ⟨Task.isInt64_of_ofJson? htask, ih hrest⟩

/-- The ids of the tasks of a listing that was read fit 64 bits. -/
theorem isInt64_of_ofJson? (h : ofJson? json = some list) :
    ∀ task ∈ list.tasks, Text.IsInt64 task.id := by
  unfold ofJson? at h
  simp only [Option.bind_eq_bind, Option.bind_eq_some_iff] at h
  obtain ⟨values, _, h⟩ := h
  split at h
  · simp only [Option.bind_eq_some_iff] at h
    obtain ⟨tasks, htasks, h⟩ := h
    rw [← Option.some.inj h]
    exact isInt64_of_mapM_ofJson? htasks
  · exact absurd h (by simp)

/-- A listing is read back from its texts, its tasks in the same order. -/
theorem readsBack (h : ∀ task ∈ list.tasks, Text.IsInt64 task.id) :
    ReadsBack toJson ofJson? list := by
  have hfields : list.toJson.fieldValues? ["tasks"] =
      some [some (.array (list.tasks.map Task.toJson))] := by
    simp [toJson, fieldValues?, soleField?]
  have harray : (Json.array (list.tasks.map Task.toJson)).HasNoNumber :=
    hasNoNumber_array (List.forall_mem_map.2 fun task _ ↦ task.hasNoNumber_toJson)
  apply readsBack_of_hasNoNumber
  · exact hasNoNumber_object (List.forall_mem_singleton.2 harray)
  · unfold ofJson?
    rw [hfields]
    simp only [Option.bind_eq_bind, Option.bind_some, mapM_ofJson?_map_toJson h]
    rfl

end TaskList

/-! ### What commands print -/

namespace Json

variable {store : Store} {id : Int} {task : Task}

/-- What is printed of a task as JSON is read back as the task. -/
theorem exists_display_eq_ok (config : Config) (today : Date) (confirmed : Bool)
    (hfind : store.find? id = some task) (hid : Text.IsInt64 id) :
    ∃ text, (Command.runOn config today confirmed store (.display id true)).1 = .ok text ∧
      readText? Task.ofJson? text = some task := by
  have hback : ReadsBack Task.toJson Task.ofJson? task :=
    Task.readsBack ((Store.find?_eq_some hfind).2 ▸ hid)
  refine ⟨task.toJson.indentedText ++ "\n", ?_, hback.line⟩
  rw [Command.runOn, hfind]
  rfl

/-- What is printed of a listing as JSON is read back as its tasks, in the same order. -/
theorem exists_list_eq_ok (config : Config) (today : Date) (confirmed : Bool)
    {search : Option String} {limit : Option Nat} {tasks : List Task}
    (hlist : store.list search (limit.getD config.searchLimit) = .ok tasks)
    (hids : ∀ row ∈ store.rows, Text.IsInt64 row.id) :
    ∃ text, (Command.runOn config today confirmed store (.list search limit true)).1 = .ok text ∧
      readText? TaskList.ofJson? text = some ⟨tasks⟩ := by
  have hlisted : ∀ row ∈ tasks, Text.IsInt64 row.id := fun row hrow ↦ by
    rw [(Store.list_eq_ok_iff.1 hlist).2] at hrow
    exact hids row (Store.mem_rows_of_mem_sorted (List.mem_of_mem_take hrow))
  refine ⟨(TaskList.toJson ⟨tasks⟩).indentedText ++ "\n", ?_, (TaskList.readsBack hlisted).line⟩
  rw [Command.runOn, hlist]
  rfl

/-- Records are read back from their texts, the compact one and the indented one: a task whose id
fits 64 bits, a new task, and a listing of such tasks of any length, its tasks in the same order.
Reading a text that is accepted and writing what was read changes nothing the second time. What a
command prints of a task as JSON is read back as what is in the store, and what it prints of a
listing, where there is one, as the tasks of the listing. -/
theorem record_round_trip :
    (∀ task : Task, Text.IsInt64 task.id → ReadsBack Task.toJson Task.ofJson? task) ∧
    (∀ new : NewTask, ReadsBack NewTask.toJson NewTask.ofJson? new) ∧
    (∀ list : TaskList, (∀ task ∈ list.tasks, Text.IsInt64 task.id) →
      ReadsBack TaskList.toJson TaskList.ofJson? list) ∧
    (Settles Task.toJson Task.ofJson? ∧ Settles NewTask.toJson NewTask.ofJson? ∧
      Settles TaskList.toJson TaskList.ofJson?) ∧
    ∀ config today confirmed (store : Store), (∀ row ∈ store.rows, Text.IsInt64 row.id) →
      (∀ id task, store.find? id = some task →
        ∃ text, (Command.runOn config today confirmed store (.display id true)).1 = .ok text ∧
          readText? Task.ofJson? text = some task) ∧
      ∀ search limit tasks, store.list search (limit.getD config.searchLimit) = .ok tasks →
        ∃ text, (Command.runOn config today confirmed store (.list search limit true)).1 =
          .ok text ∧ readText? TaskList.ofJson? text = some ⟨tasks⟩ := by
  refine ⟨fun _ ↦ Task.readsBack, NewTask.readsBack, fun _ ↦ TaskList.readsBack,
    ⟨settles_of_readsBack fun text task h ↦ ?_, settles_of_readsBack fun _ new _ ↦ new.readsBack,
      settles_of_readsBack fun text list h ↦ ?_⟩,
    fun config today confirmed store hids ↦ ⟨fun id task hfind ↦ ?_,
      fun search limit tasks hlist ↦ exists_list_eq_ok config today confirmed hlist hids⟩⟩
  · obtain ⟨json, _, h⟩ := Option.bind_eq_some_iff.1 h
    exact Task.readsBack (Task.isInt64_of_ofJson? h)
  · obtain ⟨json, _, h⟩ := Option.bind_eq_some_iff.1 h
    exact TaskList.readsBack (TaskList.isInt64_of_ofJson? h)
  · obtain ⟨hrow, rfl⟩ := Store.find?_eq_some hfind
    exact exists_display_eq_ok config today confirmed hfind (hids task hrow)

/-- The least id there is, and a title with a quote, a backslash, a control character and one
outside the basic plane, by itself and in a listing. -/
theorem record_round_trip_least_id :
    let task : Task :=
      { id := -9223372036854775808, date := "20240126", title := "\"\\\n😀", comment := "",
        repeatText := "d 1" }
    let store : Store := ⟨[task], 1⟩
    let config : Config := { databasePath := "scheduler.db", timezone := "UTC", searchLimit := 50 }
    let today : Date := .civil 2024 1 26 (by decide)
    Text.IsInt64 task.id ∧ ReadsBack Task.toJson Task.ofJson? task ∧
    store.list none 50 = .ok [task] ∧
    ∃ text, (Command.runOn config today false store (.list none none true)).1 = .ok text ∧
      readText? TaskList.ofJson? text = some ⟨[task]⟩ := by
  intro task store config today
  have hid : Text.IsInt64 task.id := by decide
  have hlist : store.list none 50 = .ok [task] := by
    refine Store.list_eq_ok_iff.2 ⟨?_, ?_⟩
    · rintro ⟨⟨_, hsearch, -⟩, -⟩
      cases hsearch
    · rw [Store.sorted, Store.matching_of_ofSearch_eq_all rfl, List.mergeSort_singleton]
      rfl
  obtain ⟨hback, -, -, -, hprinted⟩ := record_round_trip
  exact ⟨hid, hback task hid, hlist,
    (hprinted config today false store (List.forall_mem_singleton.2 hid)).2 none none [task] hlist⟩

-- A field that no record has is dropped, those that are missing are filled in.
example : rewritten? NewTask.toJson NewTask.ofJson? compactText
    "\x7b\"title\": \"\\u0041\\/\\t\", \"rank\": [1e2]\x7d" =
    some "\x7b\"title\":\"A/\\t\",\"date\":\"\",\"comment\":\"\",\"repeat\":\"\"\x7d" := by
  decide

end Json

end Agenda
