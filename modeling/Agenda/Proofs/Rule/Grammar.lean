import Mathlib.Data.List.Basic
import Agenda.Proofs.Rule.Text

/-!
# The grammar of a repeat rule

What a text says about a repeat rule, given by what the text consists of and not by how it is read:
a rule, or the first fault that a reader has to name (`Rule.Reading`). Every text has a reading, and
the parser gives it (`Rule.parse_eq_iff_reading`).
-/

namespace Agenda

open Numbered (value)
open Text (IsSplit ReadsAs)

/-! ### Sets and lists -/

namespace NumberSet

variable {α : Type} [Numbered α] {s t : NumberSet α}

private theorem nodup_toList (s : NumberSet α) : s.toList.Nodup := by
  apply s.ascending.imp
  intro a b hlt heq
  rw [heq] at hlt
  exact Int.lt_irrefl _ hlt

private theorem mem_toList_iff {a : α} : a ∈ s.toList ↔ ∃ b ∈ s, value b = value a := by
  constructor
  · exact fun h ↦ ⟨a, h, rfl⟩
  · rintro ⟨b, hb, heq⟩
    exact Numbered.value_injective heq ▸ hb

private theorem ext_of_value (h : ∀ n, (∃ a ∈ s, value a = n) ↔ ∃ a ∈ t, value a = n) : s = t := by
  apply ext
  apply List.Perm.eq_of_pairwise _ s.ascending t.ascending
  · rw [List.perm_ext_iff_of_nodup s.nodup_toList t.nodup_toList]
    intro a
    rw [mem_toList_iff, mem_toList_iff, h]
  · intro a b _ _ hlt hgt
    exact absurd hlt (Int.lt_asymm hgt)

end NumberSet

private theorem exists_first_not {α : Type} {P : α → Prop} {as : List α} (h : ¬∀ a ∈ as, P a) :
    ∃ before a after, as = before ++ a :: after ∧ (∀ b ∈ before, P b) ∧ ¬P a := by
  induction as with
  | nil => exact absurd h (by simp)
  | cons a as ih =>
    by_cases ha : P a
    · obtain ⟨before, bad, after, rfl, hbefore, hbad⟩ :=
        ih fun hall ↦ h (List.forall_mem_cons.2 ⟨ha, hall⟩)
      exact ⟨a :: before, bad, after, rfl, List.forall_mem_cons.2 ⟨ha, hbefore⟩, hbad⟩
    · exact ⟨[], a, as, rfl, by simp, ha⟩

/-! ### The grammar -/

/-- The numbers that an entry of a list may be. -/
def EntryKind.Admits : EntryKind → Int → Prop
  | weekday, n => 1 ≤ n ∧ n ≤ 7
  | day, n => n = -2 ∨ n = -1 ∨ 1 ≤ n ∧ n ≤ 31
  | month, n => 1 ≤ n ∧ n ≤ 12

/-- A text is the numeral of a number that an entry of a list may be. -/
def IsEntry (kind : EntryKind) (entry : List Char) : Prop := ∃ n, ReadsAs entry n ∧ kind.Admits n

namespace Rule

/-- What the interval of a daily rule says. -/
inductive IntervalReading (token : List Char) : Except Error Nat → Prop where
  /-- The interval is in range. -/
  | interval {n : Nat} (hreads : ReadsAs token n) (hpos : 1 ≤ n) (hle : n ≤ 400) :
    IntervalReading token (.ok n)
  /-- The interval is a number above the range. -/
  | tooLong {n : Int} (hreads : ReadsAs token n) (hlong : 400 < n) :
    IntervalReading token (.error (.intervalTooLong n))
  /-- The interval is a number below the range. -/
  | nonPositive {n : Int} (hreads : ReadsAs token n) (hle : n ≤ 0) :
    IntervalReading token (.error (.invalidArgument (.nonPositiveInterval n)))
  /-- The interval is no number, or one that fits no word. -/
  | unreadable (hunreadable : ¬∃ n, ReadsAs token n) :
    IntervalReading token (.error (.invalidArgument (.unreadableInterval (String.ofList token))))

/-- What a list says. -/
inductive ListReading (α : Type) [Numbered α] (kind : EntryKind) (list : List Char) :
    Except Error (NumberSet α) → Prop where
  /-- All entries are of the domain, and the set has the numbers that they read as. -/
  | set {entries : List (List Char)} {s : NumberSet α} (hsplit : IsSplit ',' list entries)
    (hgood : ∀ entry ∈ entries, IsEntry kind entry)
    (hset : ∀ n, (∃ a ∈ s, value a = n) ↔ ∃ entry ∈ entries, ReadsAs entry n) :
    ListReading α kind list (.ok s)
  /-- An entry is not of the domain, and all entries before it are. -/
  | badEntry {before after : List (List Char)} {entry : List Char}
    (hsplit : IsSplit ',' list (before ++ entry :: after))
    (hbefore : ∀ good ∈ before, IsEntry kind good) (hbad : ¬IsEntry kind entry) :
    ListReading α kind list (.error (.invalidArgument (.badEntry kind (String.ofList entry))))

/-- How many arguments a rule of a kind takes. -/
def Kind.Takes : Kind → Nat → Prop
  | daily, count => count = 1
  | yearly, count => count = 0
  | weekly, count => count = 1
  | monthly, count => count = 1 ∨ count = 2

/-- What a text says about a repeat rule. The words of the text stand between single spaces. -/
inductive Reading (text : String) : Except Error Rule → Prop where
  /-- There is no text. -/
  | empty (hempty : text = "") : Reading text (.error .emptyRule)
  /-- The first word is none of the letters. It may be empty, as that of the empty text is. -/
  | unknownKind {word : List Char} {arguments : List (List Char)} (hne : text ≠ "")
    (hwords : IsSplit ' ' text.toList (word :: arguments))
    (hunknown : word ∉ [['d'], ['y'], ['w'], ['m']]) :
    Reading text (.error (.unknownRuleKind (String.ofList word)))
  /-- The letter does not take as many arguments, whatever they are. -/
  | wrongCount {kind : Kind} {arguments : List (List Char)}
    (hwords : IsSplit ' ' text.toList ([kind.letter] :: arguments))
    (hcount : ¬kind.Takes arguments.length) :
    Reading text (.error (.invalidArgument (.wrongCount (String.singleton kind.letter) text)))
  /-- The rule is daily, or its interval is bad. -/
  | daily {token : List Char} {result : Except Error Nat}
    (hwords : IsSplit ' ' text.toList [['d'], token]) (hinterval : IntervalReading token result) :
    Reading text (result.map .daily)
  /-- The rule is yearly. -/
  | yearly (hwords : IsSplit ' ' text.toList [['y']]) : Reading text (.ok .yearly)
  /-- The rule is weekly, or its list is bad. -/
  | weekly {list : List Char} {result : Except Error (NumberSet Nat)}
    (hwords : IsSplit ' ' text.toList [['w'], list])
    (hweekdays : ListReading Nat .weekday list result) : Reading text (result.map .weekly)
  /-- The rule is for days of every month, or its list is bad. -/
  | everyMonth {list : List Char} {result : Except Error (NumberSet DaySelector)}
    (hwords : IsSplit ' ' text.toList [['m'], list])
    (hdays : ListReading DaySelector .day list result) :
    Reading text (result.map (.monthly · .empty))
  /-- The list of days is bad, which counts before any fault of the list of months. -/
  | badDays {dayList monthList : List Char} {e : Error}
    (hwords : IsSplit ' ' text.toList [['m'], dayList, monthList])
    (hdays : ListReading DaySelector .day dayList (.error e)) : Reading text (.error e)
  /-- The rule is for days of given months, or the list of months is bad. -/
  | givenMonths {dayList monthList : List Char} {days : NumberSet DaySelector}
    {result : Except Error (NumberSet Nat)}
    (hwords : IsSplit ' ' text.toList [['m'], dayList, monthList])
    (hdays : ListReading DaySelector .day dayList (.ok days))
    (hmonths : ListReading Nat .month monthList result) : Reading text (result.map (.monthly days))

/-! ### Intervals -/

private theorem exists_intervalReading (token : List Char) :
    ∃ result, IntervalReading token result := by
  by_cases hreads : ∃ n, ReadsAs token n
  · obtain ⟨n, hn⟩ := hreads
    by_cases hlong : 400 < n
    · exact ⟨_, .tooLong hn hlong⟩
    · by_cases hle : n ≤ 0
      · exact ⟨_, .nonPositive hn hle⟩
      · obtain ⟨k, rfl⟩ := Int.eq_ofNat_of_zero_le (show 0 ≤ n by omega)
        exact ⟨_, .interval hn (by omega) (by omega)⟩
  · exact ⟨_, .unreadable hreads⟩

private theorem readInterval_eq_of_reading {token : List Char} {result : Except Error Nat}
    (h : IntervalReading token result) : readInterval token = result := by
  have hlongest : longestInterval = 400 := rfl
  unfold readInterval
  cases h with
  | interval hreads hpos hle =>
    simp only [Text.readInt64?_eq_some_iff.2 hreads]
    rw [if_neg (by omega), if_neg (by omega), Int.toNat_natCast]
  | tooLong hreads hlong =>
    simp only [Text.readInt64?_eq_some_iff.2 hreads]
    rw [if_pos (by omega)]
  | nonPositive hreads hle =>
    simp only [Text.readInt64?_eq_some_iff.2 hreads]
    rw [if_neg (by omega), if_pos hle]
  | unreadable hunreadable => simp only [Text.readInt64?_eq_none_iff.2 hunreadable]

/-! ### Lists -/

section Lists

variable {α : Type} [Numbered α] {kind : EntryKind} {convert : Int → Option α}

/-- A conversion takes the numbers of a domain, each to the thing that is written as it. -/
structure Converts (kind : EntryKind) (convert : Int → Option α) : Prop where
  eq_some_iff : ∀ n a, convert n = some a ↔ value a = n ∧ kind.Admits n
  exists_value_eq : ∀ n, kind.Admits n → ∃ a : α, value a = n

private theorem exists_value_eq_of_pos {n : Int} (h : 1 ≤ n) : ∃ a : Nat, value a = n :=
  ⟨n.toNat, Int.toNat_of_nonneg (by omega)⟩

/-- The days of the week are the numbers up to 7. -/
theorem converts_weekday : Converts .weekday (countUpTo? 7) :=
  ⟨fun _ _ ↦ countUpTo?_eq_some_iff, fun _ h ↦ exists_value_eq_of_pos h.1⟩

/-- The months are the numbers up to 12. -/
theorem converts_month : Converts .month (countUpTo? 12) :=
  ⟨fun _ _ ↦ countUpTo?_eq_some_iff, fun _ h ↦ exists_value_eq_of_pos h.1⟩

/-- The days of a month are counted from its start or from its end. -/
theorem converts_day : Converts .day DaySelector.ofValue? := by
  refine ⟨fun _ _ ↦ ofValue?_eq_some_iff, fun n hn ↦ ?_⟩
  rcases hn with rfl | rfl | hn
  · exact ⟨.secondToLast, rfl⟩
  · exact ⟨.last, rfl⟩
  · exact ⟨.day n.toNat, Int.toNat_of_nonneg (by omega)⟩

variable (hconvert : Converts kind convert)

include hconvert

private theorem exists_readEntry_eq_ok {entry : List Char} (h : IsEntry kind entry) :
    ∃ a, readEntry kind convert entry = .ok a ∧ ∀ n, value a = n ↔ ReadsAs entry n := by
  obtain ⟨n, hreads, hadmits⟩ := h
  obtain ⟨a, ha⟩ := hconvert.exists_value_eq n hadmits
  refine ⟨a, ?_, fun m ↦ ?_⟩
  · simp only [readEntry, Text.readInt64?_eq_some_iff.2 hreads, Option.bind_some,
      (hconvert.eq_some_iff n a).2 ⟨ha, hadmits⟩]
  · rw [ha]
    exact ⟨fun h ↦ h ▸ hreads, hreads.unique⟩

private theorem readEntry_eq_error {entry : List Char} (h : ¬IsEntry kind entry) :
    readEntry kind convert entry =
      .error (.invalidArgument (.badEntry kind (String.ofList entry))) := by
  have hnone : (Text.readInt64? entry).bind convert = none := by
    refine Option.eq_none_iff_forall_ne_some.2 fun a ha ↦ ?_
    obtain ⟨n, hreads, hn⟩ := Option.bind_eq_some_iff.1 ha
    exact h ⟨n, Text.readInt64?_eq_some_iff.1 hreads, ((hconvert.eq_some_iff n a).1 hn).2⟩
  simp only [readEntry, hnone]

private theorem exists_readEntries_eq_ok {entries : List (List Char)}
    (h : ∀ entry ∈ entries, IsEntry kind entry) :
    ∃ as, readEntries kind convert entries = .ok as ∧
      ∀ n, (∃ a ∈ as, value a = n) ↔ ∃ entry ∈ entries, ReadsAs entry n := by
  induction entries with
  | nil => exact ⟨[], rfl, by simp⟩
  | cons entry entries ih =>
    rw [List.forall_mem_cons] at h
    obtain ⟨a, ha, hvalue⟩ := exists_readEntry_eq_ok hconvert h.1
    obtain ⟨as, has, hvalues⟩ := ih h.2
    refine ⟨a :: as, ?_, fun n ↦ ?_⟩
    · simp only [readEntries, ha, has, Except.map]
    · rw [List.exists_mem_cons_iff, List.exists_mem_cons_iff, hvalue, hvalues]

private theorem readEntries_eq_error {before after : List (List Char)} {entry : List Char}
    (hbefore : ∀ good ∈ before, IsEntry kind good) (hbad : ¬IsEntry kind entry) :
    readEntries kind convert (before ++ entry :: after) =
      .error (.invalidArgument (.badEntry kind (String.ofList entry))) := by
  induction before with
  | nil => simp only [List.nil_append, readEntries, readEntry_eq_error hconvert hbad]
  | cons good before ih =>
    rw [List.forall_mem_cons] at hbefore
    obtain ⟨a, ha, _⟩ := exists_readEntry_eq_ok hconvert hbefore.1
    simp only [List.cons_append, readEntries, ha, ih hbefore.2, Except.map]

private theorem readSet_eq_of_reading {list : List Char} {result : Except Error (NumberSet α)}
    (h : ListReading α kind list result) : readSet kind convert list = result := by
  unfold readSet
  cases h with
  | set hsplit hgood hset =>
    obtain ⟨as, has, hvalues⟩ := exists_readEntries_eq_ok hconvert hgood
    rw [Text.isSplit_iff.1 hsplit, has]
    refine congrArg Except.ok (NumberSet.ext_of_value fun n ↦ ?_)
    rw [hset, ← hvalues]
    simp only [NumberSet.mem_ofList]
  | badEntry hsplit hbefore hbad =>
    rw [Text.isSplit_iff.1 hsplit, readEntries_eq_error hconvert hbefore hbad]
    rfl

private theorem exists_listReading (list : List Char) :
    ∃ result, ListReading α kind list result := by
  have hsplit : IsSplit ',' list (list.splitOn ',') := Text.isSplit_iff.2 rfl
  by_cases hgood : ∀ entry ∈ list.splitOn ',', IsEntry kind entry
  · obtain ⟨as, _, hvalues⟩ := exists_readEntries_eq_ok hconvert hgood
    refine ⟨_, .set (s := .ofList as) hsplit hgood fun n ↦ ?_⟩
    simp only [NumberSet.mem_ofList, hvalues]
  · obtain ⟨before, entry, after, heq, hbefore, hbad⟩ := exists_first_not hgood
    exact ⟨_, .badEntry (heq ▸ hsplit) hbefore hbad⟩

end Lists

/-! ### Words -/

private theorem Kind.ofToken?_eq_none {word : List Char} (h : word ∉ [['d'], ['y'], ['w'], ['m']]) :
    ofToken? word = none := by
  unfold ofToken?
  split <;> first | rfl | exact absurd h (by simp)

private theorem Kind.exists_eq_letter {word : List Char} (h : word ∈ [['d'], ['y'], ['w'], ['m']]) :
    ∃ kind : Kind, word = [kind.letter] := by
  simp only [List.mem_cons, List.not_mem_nil, or_false] at h
  rcases h with rfl | rfl | rfl | rfl
  · exact ⟨.daily, rfl⟩
  · exact ⟨.yearly, rfl⟩
  · exact ⟨.weekly, rfl⟩
  · exact ⟨.monthly, rfl⟩

private theorem readArguments_eq_error {text : String} {kind : Kind} {arguments : List (List Char)}
    (hcount : ¬kind.Takes arguments.length) :
    readArguments text kind arguments =
      .error (.invalidArgument (.wrongCount (String.singleton kind.letter) text)) := by
  unfold readArguments
  split <;> first | rfl | exact absurd hcount (by simp [Kind.Takes])

/-- A text is parsed as the grammar says. -/
theorem parse_eq_of_reading {text : String} {result : Except Error Rule}
    (h : Reading text result) : parse text = result := by
  cases h with
  | empty hempty => rw [parse, if_pos hempty]
  | unknownKind hne hwords hunknown =>
    simp only [parse, if_neg hne, Text.isSplit_iff.1 hwords, Kind.ofToken?_eq_none hunknown]
  | wrongCount hwords hcount =>
    rw [parse_eq_readArguments _ hwords, readArguments_eq_error hcount]
  | daily hwords hinterval =>
    rw [parse_eq_readArguments .daily hwords, readArguments,
      readInterval_eq_of_reading hinterval]
  | yearly hwords => rw [parse_eq_readArguments .yearly hwords, readArguments]
  | weekly hwords hweekdays =>
    rw [parse_eq_readArguments .weekly hwords, readArguments, readWeekdays,
      readSet_eq_of_reading converts_weekday hweekdays]
  | everyMonth hwords hdays =>
    rw [parse_eq_readArguments .monthly hwords, readArguments, readDays,
      readSet_eq_of_reading converts_day hdays]
  | badDays hwords hdays =>
    rw [parse_eq_readArguments .monthly hwords, readArguments, readDays,
      readSet_eq_of_reading converts_day hdays]
  | givenMonths hwords hdays hmonths =>
    rw [parse_eq_readArguments .monthly hwords, readArguments, readDays,
      readSet_eq_of_reading converts_day hdays, readMonths,
      readSet_eq_of_reading converts_month hmonths]

private theorem exists_reading_of_takes {text : String} {kind : Kind} {arguments : List (List Char)}
    (hwords : IsSplit ' ' text.toList ([kind.letter] :: arguments))
    (hcount : kind.Takes arguments.length) : ∃ result, Reading text result := by
  cases kind with
  | daily =>
    obtain ⟨token, rfl⟩ := List.length_eq_one_iff.1 hcount
    obtain ⟨_, hinterval⟩ := exists_intervalReading token
    exact ⟨_, .daily hwords hinterval⟩
  | yearly =>
    obtain rfl := List.length_eq_zero_iff.1 hcount
    exact ⟨_, .yearly hwords⟩
  | weekly =>
    obtain ⟨list, rfl⟩ := List.length_eq_one_iff.1 hcount
    obtain ⟨_, hweekdays⟩ := exists_listReading converts_weekday list
    exact ⟨_, .weekly hwords hweekdays⟩
  | monthly =>
    rcases hcount with hcount | hcount
    · obtain ⟨list, rfl⟩ := List.length_eq_one_iff.1 hcount
      obtain ⟨_, hdays⟩ := exists_listReading converts_day list
      exact ⟨_, .everyMonth hwords hdays⟩
    · obtain ⟨dayList, monthList, rfl⟩ := List.length_eq_two.1 hcount
      obtain ⟨result, hdays⟩ := exists_listReading converts_day dayList
      obtain ⟨_, hmonths⟩ := exists_listReading converts_month monthList
      -- A fault in the days is named before the months are looked at.
      cases result with
      | error e => exact ⟨_, .badDays hwords hdays⟩
      | ok days => exact ⟨_, .givenMonths hwords hdays hmonths⟩

/-- Every text has a reading. -/
theorem exists_reading (text : String) : ∃ result, Reading text result := by
  by_cases hempty : text = ""
  · exact ⟨_, .empty hempty⟩
  · obtain ⟨word, arguments, hsplit⟩ :=
      List.exists_cons_of_ne_nil (List.splitOn_ne_nil ' ' text.toList)
    have hwords : IsSplit ' ' text.toList (word :: arguments) := Text.isSplit_iff.2 hsplit
    by_cases hword : word ∈ [['d'], ['y'], ['w'], ['m']]
    · obtain ⟨kind, rfl⟩ := Kind.exists_eq_letter hword
      by_cases hcount : kind.Takes arguments.length
      · exact exists_reading_of_takes hwords hcount
      · exact ⟨_, .wrongCount hwords hcount⟩
    · exact ⟨_, .unknownKind hempty hwords hword⟩

/-! ### Faults -/

/-- What a text of a rule can be refused for. -/
inductive IsFault : Error → Prop where
  | emptyRule : IsFault .emptyRule
  | unknownRuleKind (token : String) : IsFault (.unknownRuleKind token)
  | invalidArgument (fault : ArgumentFault) : IsFault (.invalidArgument fault)
  | intervalTooLong (value : Int) : IsFault (.intervalTooLong value)

private theorem IntervalReading.isFault {token : List Char} {e : Error}
    (h : IntervalReading token (.error e)) : IsFault e := by
  cases h with
  | tooLong _ _ => exact .intervalTooLong _
  | nonPositive _ _ => exact .invalidArgument _
  | unreadable _ => exact .invalidArgument _

private theorem ListReading.isFault {α : Type} [Numbered α] {kind : EntryKind} {list : List Char}
    {e : Error} (h : ListReading α kind list (.error e)) : IsFault e := by
  cases h with
  | badEntry _ _ _ => exact .invalidArgument _

/-- A text is refused for a fault of its own. -/
theorem isFault_of_parse {text : String} {e : Error} (h : parse text = .error e) : IsFault e := by
  obtain ⟨result, hreading⟩ := exists_reading text
  rw [parse_eq_of_reading hreading] at h
  cases hreading with
  | empty _ => exact Except.error.inj h ▸ .emptyRule
  | unknownKind _ _ _ => exact Except.error.inj h ▸ .unknownRuleKind _
  | wrongCount _ _ => exact Except.error.inj h ▸ .invalidArgument _
  | daily _ hinterval =>
    rw [map_eq_error_iff.1 h] at hinterval
    exact hinterval.isFault
  | yearly _ => exact absurd h (by simp)
  | weekly _ hweekdays =>
    rw [map_eq_error_iff.1 h] at hweekdays
    exact hweekdays.isFault
  | everyMonth _ hdays =>
    rw [map_eq_error_iff.1 h] at hdays
    exact hdays.isFault
  | badDays _ hdays => exact Except.error.inj h ▸ hdays.isFault
  | givenMonths _ _ hmonths =>
    rw [map_eq_error_iff.1 h] at hmonths
    exact hmonths.isFault

/-! ### The parser and the grammar -/

/-- The parser gives the reading of a text: it accepts exactly the texts of the grammar, as the
rules they say, and refuses any other text by its first fault. -/
theorem parse_eq_iff_reading (text : String) (result : Except Error Rule) :
    parse text = result ↔ Reading text result := by
  constructor
  · rintro rfl
    obtain ⟨found, hreading⟩ := exists_reading text
    rwa [parse_eq_of_reading hreading]
  · exact parse_eq_of_reading

end Rule

end Agenda
