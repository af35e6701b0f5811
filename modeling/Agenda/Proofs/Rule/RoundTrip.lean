import Agenda.Json.Records
import Agenda.Proofs.Json.Text
import Agenda.Proofs.Rule.Text

/-!
# Rules and their texts

A rule is read back from its text exactly if it is well-formed, and its text is never read as
another rule (`Rule.parse_text_eq_ok_iff`). The text is taken apart as it was put together: words
between spaces, entries between commas, numerals. The same holds of a rule that is written as a
JSON string (`Rule.text_round_trip`).
-/

namespace Agenda

open Numbered (value)

/-! ### Characters of a list -/

private theorem Text.eq_or_isDigit_of_mem_decimal {n : Int} {c : Char} (h : c ∈ decimal n) :
    c = '-' ∨ c.isDigit = true := by
  have hdigit {k : Nat} (hc : c ∈ digits k) : c.isDigit = true :=
    List.all_eq_true.1 (all_isDigit_digits k) c hc
  cases n with
  | ofNat n => exact .inr (hdigit h)
  | negSucc n => exact (List.mem_cons.1 h).imp id hdigit

private theorem Text.comma_notMem_decimal (n : Int) : ',' ∉ decimal n := fun h ↦
  (eq_or_isDigit_of_mem_decimal h).elim (by decide) (by decide)

private theorem Text.space_notMem_decimal (n : Int) : ' ' ∉ decimal n := fun h ↦
  (eq_or_isDigit_of_mem_decimal h).elim (by decide) (by decide)

namespace NumberSet

variable {α : Type} [Numbered α]

private theorem insertAscending_of_lt {a : α} {bs : List α} (h : ∀ b ∈ bs, value a < value b) :
    insertAscending a bs = a :: bs := by
  cases bs with
  | nil => rfl
  | cons b bs => exact if_pos (h b List.mem_cons_self)

/-- An ascending list is that of its set. -/
theorem toList_ofList {as : List α} (h : as.Pairwise fun a b ↦ value a < value b) :
    (ofList as).toList = as := by
  induction as with
  | nil => rfl
  | cons a as ih =>
    rw [List.pairwise_cons] at h
    change insertAscending a (ofList as).toList = a :: as
    rw [ih h.2, insertAscending_of_lt h.1]

/-- A set is that of its list. -/
theorem ofList_toList (s : NumberSet α) : ofList s.toList = s := ext (toList_ofList s.ascending)

private theorem space_notMem_chars (s : NumberSet α) : ' ' ∉ s.chars := by
  intro h
  rcases Text.mem_intercalate h with h | ⟨entry, hentry, h⟩
  · exact absurd h (by decide)
  · obtain ⟨a, _, rfl⟩ := List.mem_map.1 hentry
    exact Text.space_notMem_decimal _ h

end NumberSet

namespace Rule

/-! ### Reading numerals -/

private theorem readInterval_decimal_eq_ok_iff {interval found : Nat} :
    readInterval (Text.decimal interval) = .ok found ↔
      found = interval ∧ 1 ≤ interval ∧ interval ≤ longestInterval := by
  have hlongest : longestInterval = 400 := rfl
  rw [readInterval, Text.readInt64?_decimal]
  by_cases hfits : Text.IsInt64 interval
  · rw [if_pos hfits]
    by_cases hlong : (longestInterval : Int) < interval
    · simp only [if_pos hlong, reduceCtorEq, false_iff]
      omega
    · by_cases hzero : (interval : Int) ≤ 0
      · simp only [if_neg hlong, if_pos hzero, reduceCtorEq, false_iff]
        omega
      · simp only [if_neg hlong, if_neg hzero, Except.ok.injEq, Int.toNat_natCast]
        omega
  · rw [if_neg hfits]
    unfold Text.IsInt64 at hfits
    simp only [reduceCtorEq, false_iff]
    omega

section Lists

variable {α : Type} {kind : EntryKind} {convert : Int → Option α}

private theorem readEntry_decimal_eq_ok_iff {n : Int} {a : α} :
    readEntry kind convert (Text.decimal n) = .ok a ↔ Text.IsInt64 n ∧ convert n = some a := by
  unfold readEntry
  rw [Text.readInt64?_decimal]
  by_cases hn : Text.IsInt64 n
  · rw [if_pos hn, Option.bind_some]
    cases convert n <;> simp [hn]
  · rw [if_neg hn]
    simp [hn]

variable [Numbered α]

/-- An element is read back from its numeral. -/
def ReadsBack (convert : Int → Option α) (a : α) : Prop :=
  Text.IsInt64 (value a) ∧ convert (value a) = some a

variable (hconvert : ∀ n a, convert n = some a → value a = n)

include hconvert

private theorem readEntries_decimal_eq_ok_iff {as bs : List α} :
    readEntries kind convert (as.map fun a ↦ Text.decimal (value a)) = .ok bs ↔
      bs = as ∧ ∀ a ∈ as, ReadsBack convert a := by
  induction as generalizing bs with
  | nil => simp [readEntries, eq_comm]
  | cons a as ih =>
    rw [List.map_cons, readEntries]
    constructor
    · intro h
      split at h
      · exact absurd h (by simp)
      · next b hentry =>
        obtain ⟨hfits, hb⟩ := readEntry_decimal_eq_ok_iff.1 hentry
        obtain rfl := Numbered.value_injective (hconvert _ _ hb)
        obtain ⟨cs, hrest, rfl⟩ := map_eq_ok_iff.1 h
        obtain ⟨rfl, hall⟩ := ih.1 hrest
        exact ⟨rfl, List.forall_mem_cons.2 ⟨⟨hfits, hb⟩, hall⟩⟩
    · rintro ⟨rfl, hall⟩
      rw [List.forall_mem_cons] at hall
      rw [readEntry_decimal_eq_ok_iff.2 hall.1]
      exact map_eq_ok_iff.2 ⟨as, ih.2 ⟨rfl, hall.2⟩, rfl⟩

private theorem readSet_chars_eq_ok_iff {s t : NumberSet α} :
    readSet kind convert s.chars = .ok t ↔
      t = s ∧ s.toList ≠ [] ∧ ∀ a ∈ s, ReadsBack convert a := by
  unfold readSet
  by_cases hempty : s.toList = []
  · -- The empty set is written as one empty entry, which is no numeral.
    rw [NumberSet.chars, hempty]
    simp [readEntries, readEntry, Text.readInt64?, Text.readInt?, Text.readNat?, Except.map]
  · have hcomma : ∀ entry ∈ s.toList.map fun a ↦ Text.decimal (value a), ',' ∉ entry := by
      intro entry hentry
      obtain ⟨a, _, rfl⟩ := List.mem_map.1 hentry
      exact Text.comma_notMem_decimal _
    rw [NumberSet.chars, List.splitOn_intercalate ',' hcomma (by simpa using hempty), map_eq_ok_iff]
    simp only [readEntries_decimal_eq_ok_iff hconvert]
    constructor
    · rintro ⟨as, ⟨rfl, hall⟩, rfl⟩
      exact ⟨s.ofList_toList, hempty, hall⟩
    · rintro ⟨rfl, _, hall⟩
      exact ⟨_, ⟨rfl, hall⟩, t.ofList_toList⟩

end Lists

private theorem readsBack_countUpTo?_iff {most n : Nat} (hmost : most ≤ 12) :
    ReadsBack (countUpTo? most) n ↔ 1 ≤ n ∧ n ≤ most := by
  have hvalue : value n = (n : Int) := rfl
  unfold ReadsBack Text.IsInt64
  rw [countUpTo?_eq_some_iff, hvalue]
  omega

private theorem readsBack_ofValue?_iff {selector : DaySelector} :
    ReadsBack DaySelector.ofValue? selector ↔ ∀ n, selector = .day n → 1 ≤ n ∧ n ≤ 31 := by
  cases selector with
  | secondToLast => exact ⟨fun _ n h ↦ absurd h (by simp), fun _ ↦ ⟨by decide, rfl⟩⟩
  | last => exact ⟨fun _ n h ↦ absurd h (by simp), fun _ ↦ ⟨by decide, rfl⟩⟩
  | day n =>
    have hvalue : value (DaySelector.day n) = (n : Int) := rfl
    unfold ReadsBack Text.IsInt64
    rw [ofValue?_eq_some_iff, hvalue]
    simp only [true_and, DaySelector.day.injEq, forall_eq']
    omega

private theorem readSet_countUpTo?_chars_eq_ok_iff {kind : EntryKind} {most : Nat}
    (hmost : most ≤ 12) {s t : NumberSet Nat} :
    readSet kind (countUpTo? most) s.chars = .ok t ↔
      t = s ∧ s.toList ≠ [] ∧ ∀ n ∈ s, 1 ≤ n ∧ n ≤ most := by
  simp only [readSet_chars_eq_ok_iff fun _ _ h ↦ (countUpTo?_eq_some_iff.1 h).1,
    readsBack_countUpTo?_iff hmost]

private theorem readDays_chars_eq_ok_iff {s t : NumberSet DaySelector} :
    readDays s.chars = .ok t ↔
      t = s ∧ s.toList ≠ [] ∧ ∀ n, .day n ∈ s → 1 ≤ n ∧ n ≤ 31 := by
  simp only [readDays, readSet_chars_eq_ok_iff fun _ _ h ↦ (ofValue?_eq_some_iff.1 h).1,
    readsBack_ofValue?_iff]
  exact and_congr_right fun _ ↦ and_congr_right fun _ ↦
    ⟨fun h n hn ↦ h _ hn n rfl, fun h _ hmem n heq ↦ h n (heq ▸ hmem)⟩

/-! ### The words of a text -/

/-- The kind of a rule. -/
def kind : Rule → Kind
  | daily _ => .daily
  | yearly => .yearly
  | weekly _ => .weekly
  | monthly _ _ => .monthly

/-- The words of a rule's text behind the letter. -/
def arguments : Rule → List (List Char)
  | daily interval => [Text.decimal interval]
  | yearly => []
  | weekly weekdays => [weekdays.chars]
  | monthly days months => if months.isEmpty then [days.chars] else [days.chars, months.chars]

variable {rule found : Rule}

private theorem chars_eq_intercalate (rule : Rule) :
    rule.chars = [' '].intercalate ([rule.kind.letter] :: rule.arguments) := by
  cases rule with
  | daily interval => simp [chars, kind, arguments, Kind.letter, List.intercalate_cons_cons]
  | yearly => simp [chars, kind, arguments, Kind.letter]
  | weekly weekdays => simp [chars, kind, arguments, Kind.letter, List.intercalate_cons_cons]
  | monthly days months =>
    by_cases hmonths : months.isEmpty = true <;>
      simp [chars, kind, arguments, Kind.letter, List.intercalate_cons_cons, hmonths]

private theorem space_notMem_of_mem_arguments {word : List Char} (h : word ∈ rule.arguments) :
    ' ' ∉ word := by
  cases rule with
  | daily interval =>
    rw [List.mem_singleton.1 h]
    exact Text.space_notMem_decimal interval
  | yearly => exact absurd h List.not_mem_nil
  | weekly weekdays =>
    rw [List.mem_singleton.1 h]
    exact weekdays.space_notMem_chars
  | monthly days months =>
    have hword : word = days.chars ∨ word = months.chars := by
      simp only [arguments] at h
      split at h
      · exact .inl (List.mem_singleton.1 h)
      · simpa using h
    rcases hword with rfl | rfl
    · exact days.space_notMem_chars
    · exact months.space_notMem_chars

private theorem Kind.space_ne_letter (kind : Kind) : ' ' ≠ kind.letter := by
  cases kind <;> decide

/-- The text of a rule consists of its words. -/
theorem isSplit_text (rule : Rule) :
    Text.IsSplit ' ' rule.text.toList ([rule.kind.letter] :: rule.arguments) := by
  refine ⟨List.cons_ne_nil _ _, fun word hword ↦ ?_, ?_⟩
  · rcases List.mem_cons.1 hword with rfl | hword
    · exact fun h ↦ rule.kind.space_ne_letter (List.mem_singleton.1 h)
    · exact space_notMem_of_mem_arguments hword
  · rw [text, String.toList_ofList, chars_eq_intercalate]

/-- The text of a rule is read by its kind. -/
theorem parse_text (rule : Rule) :
    parse rule.text = readArguments rule.text rule.kind rule.arguments :=
  parse_eq_readArguments rule.kind rule.isSplit_text

private theorem readArguments_monthly_eq_ok_iff {text : String} {days : NumberSet DaySelector}
    {months : NumberSet Nat} :
    readArguments text .monthly (monthly days months).arguments = .ok found ↔
      found = monthly days months ∧ (monthly days months).WellFormed := by
  by_cases hempty : months.isEmpty = true
  · -- No list of months is written, and the empty set is what its absence stands for.
    obtain rfl : months = .empty := NumberSet.ext (List.isEmpty_iff.1 hempty)
    simp only [arguments, if_pos hempty, readArguments, map_eq_ok_iff, readDays_chars_eq_ok_iff,
      WellFormed]
    constructor
    · rintro ⟨_, ⟨rfl, hne, hdays⟩, rfl⟩
      exact ⟨rfl, hne, hdays, fun m hm ↦ absurd hm List.not_mem_nil⟩
    · rintro ⟨rfl, hne, hdays, _⟩
      exact ⟨days, ⟨rfl, hne, hdays⟩, rfl⟩
  · have hmonths : months.toList ≠ [] := fun h ↦ hempty (List.isEmpty_iff.2 h)
    simp only [arguments, if_neg hempty, readArguments, WellFormed]
    constructor
    · intro h
      split at h
      · exact absurd h (by simp)
      · next found' hread =>
        obtain ⟨rfl, hne, hdays⟩ := readDays_chars_eq_ok_iff.1 hread
        obtain ⟨_, hreadMonths, rfl⟩ := map_eq_ok_iff.1 h
        obtain ⟨rfl, _, hall⟩ :=
          (readSet_countUpTo?_chars_eq_ok_iff (by decide)).1 hreadMonths
        exact ⟨rfl, hne, hdays, hall⟩
    · rintro ⟨rfl, hne, hdays, hall⟩
      rw [readDays_chars_eq_ok_iff.2 ⟨rfl, hne, hdays⟩]
      exact map_eq_ok_iff.2 ⟨months,
        (readSet_countUpTo?_chars_eq_ok_iff (by decide)).2 ⟨rfl, hmonths, hall⟩, rfl⟩

/-- The words of a rule are read as that rule and no other, exactly if it is well-formed. -/
theorem readArguments_eq_ok_iff {text : String} :
    readArguments text rule.kind rule.arguments = .ok found ↔ found = rule ∧ rule.WellFormed := by
  cases rule with
  | daily interval =>
    simp only [kind, arguments, readArguments, WellFormed, map_eq_ok_iff,
      readInterval_decimal_eq_ok_iff]
    constructor
    · rintro ⟨_, ⟨rfl, hrange⟩, rfl⟩
      exact ⟨rfl, hrange⟩
    · rintro ⟨rfl, hrange⟩
      exact ⟨interval, ⟨rfl, hrange⟩, rfl⟩
  | yearly => simp [kind, arguments, readArguments, WellFormed, eq_comm]
  | weekly weekdays =>
    simp only [kind, arguments, readArguments, WellFormed, map_eq_ok_iff, readWeekdays,
      readSet_countUpTo?_chars_eq_ok_iff (show 7 ≤ 12 by decide)]
    constructor
    · rintro ⟨_, ⟨rfl, hweekdays⟩, rfl⟩
      exact ⟨rfl, hweekdays⟩
    · rintro ⟨rfl, hweekdays⟩
      exact ⟨weekdays, ⟨rfl, hweekdays⟩, rfl⟩
  | monthly days months => exact readArguments_monthly_eq_ok_iff

/-- The text of a rule is read as that rule and no other, exactly if the rule is well-formed. -/
theorem parse_text_eq_ok_iff : parse rule.text = .ok found ↔ found = rule ∧ rule.WellFormed := by
  rw [parse_text, readArguments_eq_ok_iff]

/-- The text of a well-formed rule reads back. -/
theorem parse_text_of_wellFormed (h : rule.WellFormed) : parse rule.text = .ok rule :=
  parse_text_eq_ok_iff.2 ⟨rfl, h⟩

/-- The text of any other rule is refused. -/
theorem exists_parse_text_eq_error (h : ¬rule.WellFormed) : ∃ e, parse rule.text = .error e := by
  cases hparse : parse rule.text with
  | error e => exact ⟨e, rfl⟩
  | ok found => exact absurd (parse_text_eq_ok_iff.1 hparse).2 h

/-- Well-formed rules of one text are the same. -/
theorem eq_of_text_eq {first second : Rule} (hfirst : first.WellFormed)
    (htext : first.text = second.text) : first = second := by
  have hparse := parse_text_of_wellFormed hfirst
  rw [htext] at hparse
  exact (parse_text_eq_ok_iff.1 hparse).1

/-! ### Rules as JSON -/

/-- The JSON text of a rule. -/
def jsonText (rule : Rule) : String := rule.toJson.compactText

/-- Reads a rule from a JSON text. -/
def ofJsonText? (text : String) : Option Rule := (Json.ofText? text).bind ofJson?

private theorem toOption_eq_some_iff {ε α : Type} {x : Except ε α} {a : α} :
    x.toOption = some a ↔ x = .ok a := by
  cases x <;> simp [Except.toOption]

private theorem ofJsonText?_compactText (text : String) :
    ofJsonText? (Json.ofText text).compactText = (parse text).toOption := by
  rw [ofJsonText?, Json.ofText?_compactText_ofText]
  rfl

/-- The JSON text of a rule is read as that rule and no other, exactly if the rule is
well-formed. -/
theorem ofJsonText?_jsonText_eq_some_iff :
    ofJsonText? rule.jsonText = some found ↔ found = rule ∧ rule.WellFormed := by
  rw [jsonText, toJson, ofJsonText?_compactText, toOption_eq_some_iff, parse_text_eq_ok_iff]

/-- A rule that is read from a JSON text is well-formed. -/
theorem wellFormed_of_ofJsonText? {text : String} (h : ofJsonText? text = some rule) :
    rule.WellFormed := by
  obtain ⟨json, _, hjson⟩ := Option.bind_eq_some_iff.1 h
  obtain ⟨ruleText, _, hrule⟩ := Option.bind_eq_some_iff.1 hjson
  exact wellFormed_of_parse (toOption_eq_some_iff.1 hrule)

/-- Well-formed rules of one JSON text are the same. -/
theorem eq_of_jsonText_eq {first second : Rule} (hfirst : first.WellFormed)
    (htext : first.jsonText = second.jsonText) : first = second := by
  have hread := ofJsonText?_jsonText_eq_some_iff.2 ⟨rfl, hfirst⟩
  rw [htext] at hread
  exact (ofJsonText?_jsonText_eq_some_iff.1 hread).1

/-- A rule is read back from its text if it is well-formed, and its text is refused if it is not.
What is read from any text is a well-formed rule, and two texts give one rule exactly if the rules
they give are written alike. All this holds of JSON texts too. -/
theorem text_round_trip :
    ((∀ rule : Rule, rule.WellFormed → parse rule.text = .ok rule) ∧
      (∀ rule : Rule, ¬rule.WellFormed → ∃ e, parse rule.text = .error e) ∧
      (∀ text rule, parse text = .ok rule → rule.WellFormed) ∧
      ∀ text text' rule rule', parse text = .ok rule → parse text' = .ok rule' →
        (rule = rule' ↔ rule.text = rule'.text)) ∧
    (∀ rule : Rule, rule.WellFormed → ofJsonText? rule.jsonText = some rule) ∧
    (∀ rule : Rule, ¬rule.WellFormed → ofJsonText? rule.jsonText = none) ∧
    (∀ text rule, ofJsonText? text = some rule → rule.WellFormed) ∧
    ∀ text text' rule rule', ofJsonText? text = some rule → ofJsonText? text' = some rule' →
      (rule = rule' ↔ rule.jsonText = rule'.jsonText) := by
  refine ⟨⟨fun rule ↦ parse_text_of_wellFormed, fun rule ↦ exists_parse_text_eq_error,
    fun text rule ↦ wellFormed_of_parse, fun _ _ rule rule' h _ ↦ ?_⟩,
    fun rule h ↦ ofJsonText?_jsonText_eq_some_iff.2 ⟨rfl, h⟩, fun rule h ↦ ?_,
    fun text rule ↦ wellFormed_of_ofJsonText?, fun _ _ rule rule' h _ ↦ ?_⟩
  · exact ⟨congrArg Rule.text, eq_of_text_eq (wellFormed_of_parse h)⟩
  · refine Option.eq_none_iff_forall_ne_some.2 fun found hread ↦ ?_
    exact h (ofJsonText?_jsonText_eq_some_iff.1 hread).2
  · exact ⟨congrArg Rule.jsonText, eq_of_jsonText_eq (wellFormed_of_ofJsonText? h)⟩

end Rule

end Agenda
