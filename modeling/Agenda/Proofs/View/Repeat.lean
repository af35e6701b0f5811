import Mathlib.Data.List.Forall2
import Agenda.Proofs.Rule.RoundTrip
import Agenda.View.Repeat

/-!
# What a repeat rule in words says

A rule can be told from its words: the first letter all but gives the kind, a comma stands only
between the entries of a list, and the days of a monthly rule have no `i`, which stands in front of
its months (`describeRule_injective`). So two repeat texts are shown alike exactly if both are empty
or both are texts of one rule (`describeRepeat_tells_rules`).
-/

namespace Agenda.View

/-! ### Numbers -/

private theorem takeWhile_isDigit_digits (n : Nat) {rest : List Char}
    (hrest : rest.takeWhile Char.isDigit = []) :
    (Text.digits n ++ rest).takeWhile Char.isDigit = Text.digits n := by
  rw [List.takeWhile_append_of_pos (List.all_eq_true.1 (Text.all_isDigit_digits n)), hrest,
    List.append_nil]

private theorem digits_injective : Function.Injective Text.digits := by
  intro a b h
  have hread := Text.readNat?_digits a
  rw [h, Text.readNat?_digits] at hread
  exact (Option.some.inj hread).symm

/-- An interval in words. -/
def intervalName (interval : Nat) : String :=
  if interval = 1 then "day" else String.ofList (Text.digits interval) ++ " days"

private theorem takeWhile_isDigit_intervalName (interval : Nat) :
    (intervalName interval).toList.takeWhile Char.isDigit =
      if interval = 1 then [] else Text.digits interval := by
  unfold intervalName
  split
  · decide
  · rw [String.toList_append, String.toList_ofList]
    exact takeWhile_isDigit_digits interval (by decide)

/-- Different intervals have different words. -/
theorem intervalName_injective : Function.Injective intervalName := by
  intro a b h
  have hdigits := takeWhile_isDigit_intervalName a
  rw [h, takeWhile_isDigit_intervalName] at hdigits
  by_cases ha : a = 1
  · by_cases hb : b = 1
    · rw [ha, hb]
    · rw [if_pos ha, if_neg hb] at hdigits
      exact absurd hdigits (Text.digits_ne_nil b)
  · by_cases hb : b = 1
    · rw [if_neg ha, if_pos hb] at hdigits
      exact absurd hdigits.symm (Text.digits_ne_nil a)
    · rw [if_neg ha, if_neg hb] at hdigits
      exact digits_injective hdigits.symm

private theorem intervalName_ne_year (interval : Nat) : intervalName interval ≠ "year" := by
  intro h
  have hdigits := takeWhile_isDigit_intervalName interval
  rw [h, show ("year".toList.takeWhile Char.isDigit) = [] by decide] at hdigits
  split at hdigits
  · next hone =>
    rw [hone] at h
    exact absurd h (by decide)
  · exact absurd hdigits.symm (Text.digits_ne_nil interval)

/-! ### Days of the month -/

private theorem ordinalEnding_mem (n : Nat) : ordinalEnding n ∈ ["th", "st", "nd", "rd"] := by
  unfold ordinalEnding
  split
  · simp
  · split <;> simp

private theorem takeWhile_isDigit_ordinal (n : Nat) :
    (ordinal n).toList.takeWhile Char.isDigit = Text.digits n := by
  have hending : ∀ ending ∈ ["th", "st", "nd", "rd"],
      ending.toList.takeWhile Char.isDigit = [] := by decide
  rw [ordinal, String.toList_append, String.toList_ofList]
  exact takeWhile_isDigit_digits n (hending _ (ordinalEnding_mem n))

/-- Different days of the month have different names. -/
theorem selectorName_injective : Function.Injective selectorName := by
  intro a b h
  have hhead : (selectorName a).toList.head? = (selectorName b).toList.head? := by rw [h]
  cases a with
  | last =>
    cases b with
    | last => rfl
    | secondToLast => exact absurd h (by decide)
    | day n => simp [selectorName] at hhead
  | secondToLast =>
    cases b with
    | last => exact absurd h (by decide)
    | secondToLast => rfl
    | day n => simp [selectorName] at hhead
  | day m =>
    cases b with
    | last => simp [selectorName] at hhead
    | secondToLast => simp [selectorName] at hhead
    | day n =>
      have hordinal : ordinal m = ordinal n := (String.append_right_inj "the ").1 h
      have hdigits := takeWhile_isDigit_ordinal m
      rw [hordinal, takeWhile_isDigit_ordinal] at hdigits
      rw [digits_injective hdigits]

private theorem notMem_selectorName {c : Char} (hc : c = ',' ∨ c = 'i') (selector : DaySelector) :
    c ∉ (selectorName selector).toList := by
  have hending : ∀ ending ∈ ["the ", "th", "st", "nd", "rd"],
      ',' ∉ ending.toList ∧ 'i' ∉ ending.toList := by decide
  have hplain {ending : String} (hmem : ending ∈ ["the ", "th", "st", "nd", "rd"]) :
      c ∉ ending.toList := by
    rcases hc with rfl | rfl
    · exact (hending ending hmem).1
    · exact (hending ending hmem).2
  cases selector with
  | last => rcases hc with rfl | rfl <;> decide
  | secondToLast => rcases hc with rfl | rfl <;> decide
  | day n =>
    intro h
    rw [selectorName, ordinal, String.toList_append, String.toList_append, List.mem_append,
      List.mem_append] at h
    rcases h with h | h | h
    · exact hplain List.mem_cons_self h
    · rw [String.toList_ofList] at h
      have hdigit := List.all_eq_true.1 (Text.all_isDigit_digits n) c h
      rcases hc with rfl | rfl
      · exact absurd hdigit (by decide)
      · exact absurd hdigit (by decide)
    · exact hplain (List.mem_cons_of_mem _ (ordinalEnding_mem n)) h

/-! ### Lists -/

private theorem toList_listed (entries : List String) :
    (listed entries).toList = [',', ' '].intercalate (entries.map String.toList) :=
  String.toList_intercalate

private theorem eq_of_listed_eq {entries entries' : List String} (hne : entries ≠ [])
    (hne' : entries' ≠ []) (h : ∀ entry ∈ entries, ',' ∉ entry.toList)
    (h' : ∀ entry ∈ entries', ',' ∉ entry.toList) (heq : listed entries = listed entries') :
    entries = entries' := by
  have hchars := congrArg String.toList heq
  rw [toList_listed, toList_listed] at hchars
  have hmap := Text.eq_of_intercalate_eq (by simpa using hne) (by simpa using hne')
    (by simpa using h) (by simpa using h') hchars
  exact List.map_injective_iff.2 (fun _ _ ↦ String.toList_inj.1) hmap

/-! ### Names -/

/-- Exactly the numbers from 1 to a bound have names, different numbers different ones, and there is
no comma in any of them. -/
structure IsNaming (name? : Nat → Option String) (most : Nat) : Prop where
  named : ∀ n ≤ most, 1 ≤ n → (name? n).isSome
  bounded : ∀ n, (name? n).isSome → n ≤ most
  injective : ∀ m ≤ most, ∀ n ≤ most, (name? m).isSome → name? m = name? n → m = n
  plain : ∀ n ≤ most, ∀ name ∈ name? n, ',' ∉ name.toList

/-- The days of the week have names. -/
theorem isNaming_weekdayName? : IsNaming weekdayName? 7 where
  named := by decide
  bounded n h := by
    revert h
    fun_cases weekdayName? n <;> simp
  injective := by decide
  plain := by decide

/-- The months have names. -/
theorem isNaming_monthName? : IsNaming monthName? 12 where
  named := by decide
  bounded n h := by
    revert h
    fun_cases monthName? n <;> simp
  injective := by decide
  plain := by decide

section Names

variable {name? : Nat → Option String} {most : Nat} {ns ms : List Nat}

/-- Different numbers have different names. -/
theorem IsNaming.leftUnique (hnaming : IsNaming name? most) :
    Relator.LeftUnique fun n name ↦ name? n = some name := by
  intro m n name hm hn
  have hm_some := Option.isSome_of_mem hm
  have hn_some := Option.isSome_of_mem hn
  exact hnaming.injective m (hnaming.bounded m hm_some) n (hnaming.bounded n hn_some) hm_some
    (hm.trans hn.symm)

private theorem IsNaming.forall₂_filterMap (hnaming : IsNaming name? most)
    (h : ∀ n ∈ ns, 1 ≤ n ∧ n ≤ most) :
    List.Forall₂ (fun n name ↦ name? n = some name) ns (ns.filterMap name?) := by
  induction ns with
  | nil => exact .nil
  | cons n ns ih =>
    obtain ⟨hpos, hmost⟩ := h n List.mem_cons_self
    obtain ⟨name, hname⟩ := Option.isSome_iff_exists.1 (hnaming.named n hmost hpos)
    rw [List.filterMap_cons_some hname]
    exact .cons hname (ih fun m hm ↦ h m (List.mem_cons_of_mem n hm))

private theorem IsNaming.comma_notMem (hnaming : IsNaming name? most) {name : String}
    (h : name ∈ ns.filterMap name?) : ',' ∉ name.toList := by
  obtain ⟨n, _, hname⟩ := List.mem_filterMap.1 h
  exact hnaming.plain n (hnaming.bounded n (Option.isSome_of_mem hname)) name hname

private theorem IsNaming.eq_of_listed_eq (hnaming : IsNaming name? most) (hne : ns ≠ [])
    (hne' : ms ≠ []) (h : ∀ n ∈ ns, 1 ≤ n ∧ n ≤ most) (h' : ∀ n ∈ ms, 1 ≤ n ∧ n ≤ most)
    (heq : listed (ns.filterMap name?) = listed (ms.filterMap name?)) : ns = ms := by
  have hnames := hnaming.forall₂_filterMap h
  have hnames' := hnaming.forall₂_filterMap h'
  have hsame : ns.filterMap name? = ms.filterMap name? :=
    View.eq_of_listed_eq (fun hnil ↦ hne (List.forall₂_nil_right_iff.1 (hnil ▸ hnames)))
      (fun hnil ↦ hne' (List.forall₂_nil_right_iff.1 (hnil ▸ hnames')))
      (fun _ hmem ↦ hnaming.comma_notMem hmem) (fun _ hmem ↦ hnaming.comma_notMem hmem) heq
  rw [hsame] at hnames
  exact List.left_unique_forall₂' hnaming.leftUnique hnames hnames'

end Names

/-! ### Rules -/

/-- The months of a rule in words, nothing for every month. -/
def monthsName (months : NumberSet Nat) : String :=
  if months.toList = [] then "" else " in " ++ listed (months.toList.filterMap monthName?)

private theorem describeRule_daily (interval : Nat) :
    describeRule (.daily interval) = "every " ++ intervalName interval := by
  by_cases hone : interval = 1
  · rw [hone]
    rfl
  · rw [describeRule, intervalName, if_neg hone, String.append_assoc]
    exact hone

private theorem describeRule_monthly (days : NumberSet DaySelector) (months : NumberSet Nat) :
    describeRule (.monthly days months) =
      "monthly on " ++ (listed (days.toList.map selectorName) ++ monthsName months) := by
  unfold describeRule monthsName
  simp only [NumberSet.isEmpty, List.isEmpty_iff]
  split
  · rw [String.append_empty]
  · rw [String.append_assoc, String.append_assoc]

private theorem head?_describeRule (rule : Rule) :
    (describeRule rule).toList.head? =
      match rule with
      | .daily _ | .yearly => some 'e'
      | .weekly _ => some 'w'
      | .monthly _ _ => some 'm' := by
  cases rule with
  | daily interval => simp [describeRule_daily]
  | yearly => rfl
  | weekly weekdays => simp [describeRule]
  | monthly days months => simp [describeRule_monthly]

private theorem notMem_listed_selectorName (days : NumberSet DaySelector) :
    'i' ∉ (listed (days.toList.map selectorName)).toList := by
  intro h
  rw [toList_listed] at h
  rcases Text.mem_intercalate h with hsep | ⟨entry, hentry, hmem⟩
  · exact absurd hsep (by decide)
  · obtain ⟨name, hname, rfl⟩ := List.mem_map.1 hentry
    obtain ⟨selector, _, rfl⟩ := List.mem_map.1 hname
    exact notMem_selectorName (.inr rfl) selector hmem

private theorem eq_of_listed_selectorName_eq {days days' : NumberSet DaySelector}
    (hne : days.toList ≠ []) (hne' : days'.toList ≠ [])
    (h : listed (days.toList.map selectorName) = listed (days'.toList.map selectorName)) :
    days = days' := by
  have hcomma (set : NumberSet DaySelector) :
      ∀ name ∈ set.toList.map selectorName, ',' ∉ name.toList := by
    intro name hname
    obtain ⟨selector, _, rfl⟩ := List.mem_map.1 hname
    exact notMem_selectorName (.inl rfl) selector
  have hnames := eq_of_listed_eq (by simpa using hne) (by simpa using hne') (hcomma days)
    (hcomma days') h
  exact NumberSet.ext (List.map_injective_iff.2 selectorName_injective hnames)

private theorem toList_monthsName {months : NumberSet Nat} (hne : months.toList ≠ []) :
    (monthsName months).toList =
      ' ' :: 'i' :: ("n ".toList ++ (listed (months.toList.filterMap monthName?)).toList) := by
  rw [monthsName, if_neg hne, String.toList_append]
  rfl

private theorem mem_monthsName {months : NumberSet Nat} :
    'i' ∈ (monthsName months).toList ↔ months.toList ≠ [] := by
  by_cases hempty : months.toList = []
  · simp [monthsName, hempty]
  · simp [toList_monthsName hempty, hempty]

private theorem eq_of_append_monthsName_eq {days days' : List Char} {months months' : NumberSet Nat}
    (hdays : 'i' ∉ days) (hdays' : 'i' ∉ days') (hmonths : ∀ m ∈ months, 1 ≤ m ∧ m ≤ 12)
    (hmonths' : ∀ m ∈ months', 1 ≤ m ∧ m ≤ 12)
    (h : days ++ (monthsName months).toList = days' ++ (monthsName months').toList) :
    days = days' ∧ months = months' := by
  -- The letter i stands in the words of months only, so both rules have months or neither.
  have hgiven : months.toList ≠ [] ↔ months'.toList ≠ [] := by
    have hmem : 'i' ∈ days ++ (monthsName months).toList ↔
        'i' ∈ days' ++ (monthsName months').toList := by rw [h]
    simpa [hdays, hdays', mem_monthsName] using hmem
  by_cases hempty : months.toList = []
  · have hempty' : months'.toList = [] := (not_iff_not.1 hgiven).1 hempty
    have hsame : days = days' := by simpa [monthsName, hempty, hempty'] using h
    exact ⟨hsame, NumberSet.ext (hempty.trans hempty'.symm)⟩
  · -- It also marks where the months begin.
    have hgiven' := hgiven.1 hempty
    rw [toList_monthsName hempty, toList_monthsName hgiven', List.append_cons,
      List.append_cons days'] at h
    obtain ⟨hfront, hrest⟩ :=
      Text.eq_of_append_cons_eq (by simpa using hdays) (by simpa using hdays') h
    have hlisted := String.toList_inj.1 (List.append_cancel_left hrest)
    exact ⟨List.append_cancel_right hfront,
      NumberSet.ext (isNaming_monthName?.eq_of_listed_eq hempty hgiven' hmonths hmonths' hlisted)⟩

/-- A well-formed rule can be told from its words. -/
theorem describeRule_injective {rule rule' : Rule} (hrule : rule.WellFormed)
    (hrule' : rule'.WellFormed) (h : describeRule rule = describeRule rule') : rule = rule' := by
  have hhead : (describeRule rule).toList.head? = (describeRule rule').toList.head? := by rw [h]
  rw [head?_describeRule, head?_describeRule] at hhead
  -- The first letter tells the kinds apart, but for daily and yearly rules.
  cases rule with
  | daily interval =>
    rw [describeRule_daily] at h
    cases rule' with
    | daily interval' =>
      rw [describeRule_daily, String.append_right_inj] at h
      rw [intervalName_injective h]
    | yearly =>
      exact absurd ((String.append_right_inj "every ").1 h) (intervalName_ne_year interval)
    | weekly weekdays' => simp at hhead
    | monthly days' months' => simp at hhead
  | yearly =>
    cases rule' with
    | daily interval' =>
      rw [describeRule_daily] at h
      exact absurd ((String.append_right_inj "every ").1 h.symm) (intervalName_ne_year interval')
    | yearly => rfl
    | weekly weekdays' => simp at hhead
    | monthly days' months' => simp at hhead
  | weekly weekdays =>
    cases rule' with
    | weekly weekdays' =>
      have hlisted := (String.append_right_inj "weekly on ").1 h
      rw [NumberSet.ext (isNaming_weekdayName?.eq_of_listed_eq hrule.1 hrule'.1 hrule.2 hrule'.2
        hlisted)]
    | daily interval' => simp at hhead
    | yearly => simp at hhead
    | monthly days' months' => simp at hhead
  | monthly days months =>
    cases rule' with
    | monthly days' months' =>
      rw [describeRule_monthly, describeRule_monthly, String.append_right_inj] at h
      have hchars := congrArg String.toList h
      rw [String.toList_append, String.toList_append] at hchars
      obtain ⟨hdays, hmonths⟩ := eq_of_append_monthsName_eq (notMem_listed_selectorName days)
        (notMem_listed_selectorName days') hrule.2.2 hrule'.2.2 hchars
      rw [hmonths, eq_of_listed_selectorName_eq hrule.1 hrule'.1 (String.toList_inj.1 hdays)]
    | daily interval' => simp at hhead
    | yearly => simp at hhead
    | weekly weekdays' => simp at hhead

/-- No rule in words is that of the empty text. -/
theorem describeRule_ne_once (rule : Rule) : describeRule rule ≠ "once" := by
  intro h
  have hhead := head?_describeRule rule
  rw [h] at hhead
  cases rule <;> simp at hhead

/-! ### Repeat texts -/

/-- The text of a rule is shown as its rule in words. -/
theorem describeRepeat_of_parse {text : String} {rule : Rule} (h : Rule.parse text = .ok rule) :
    describeRepeat text = describeRule rule := by
  have hne : text ≠ "" := by
    rintro rfl
    exact absurd h (by simp [Rule.parse])
  rw [describeRepeat, if_neg hne, h]

/-- A text that gives no rule is shown as it is, unless it is empty. -/
theorem describeRepeat_of_parse_error {text : String} {e : Error} (hne : text ≠ "")
    (h : Rule.parse text = .error e) : describeRepeat text = text := by
  rw [describeRepeat, if_neg hne, h]

/-- The texts a task repeats by: the empty one, for a task that comes up once, and those of
rules. -/
def IsRepeat (text : String) : Prop := text = "" ∨ ∃ rule, Rule.parse text = .ok rule

/-- Repeat texts are shown alike exactly if both are empty or both give the same rule. -/
theorem describeRepeat_eq_iff {text text' : String} (h : IsRepeat text) (h' : IsRepeat text') :
    describeRepeat text = describeRepeat text' ↔
      text = "" ∧ text' = "" ∨
        ∃ rule, Rule.parse text = .ok rule ∧ Rule.parse text' = .ok rule := by
  constructor
  · intro heq
    rcases h with rfl | ⟨rule, hrule⟩
    · rcases h' with rfl | ⟨rule', hrule'⟩
      · exact .inl ⟨rfl, rfl⟩
      · rw [describeRepeat_of_parse hrule'] at heq
        exact absurd heq.symm (describeRule_ne_once rule')
    · rw [describeRepeat_of_parse hrule] at heq
      rcases h' with rfl | ⟨rule', hrule'⟩
      · exact absurd heq (describeRule_ne_once rule)
      · rw [describeRepeat_of_parse hrule'] at heq
        have hsame := describeRule_injective (Rule.wellFormed_of_parse hrule)
          (Rule.wellFormed_of_parse hrule') heq
        exact .inr ⟨rule, hrule, hsame ▸ hrule'⟩
  · rintro (⟨rfl, rfl⟩ | ⟨rule, hrule, hrule'⟩)
    · rfl
    · rw [describeRepeat_of_parse hrule, describeRepeat_of_parse hrule']

private theorem describeRepeat_of_weekly {text : String} {weekdays : NumberSet Nat}
    (h : Rule.parse text = .ok (.weekly weekdays)) :
    ∃ names, List.Forall₂ (fun n name ↦ weekdayName? n = some name) weekdays.toList names ∧
      describeRepeat text = "weekly on " ++ listed names :=
  ⟨weekdays.toList.filterMap weekdayName?,
    isNaming_weekdayName?.forall₂_filterMap (Rule.wellFormed_of_parse h).2,
    describeRepeat_of_parse h⟩

private theorem describeRepeat_of_monthly {text : String} {days : NumberSet DaySelector}
    {months : NumberSet Nat} (h : Rule.parse text = .ok (.monthly days months)) :
    ∃ names, List.Forall₂ (fun n name ↦ monthName? n = some name) months.toList names ∧
      describeRepeat text =
        "monthly on " ++ (listed (days.toList.map selectorName) ++
          if months.toList = [] then "" else " in " ++ listed names) :=
  ⟨months.toList.filterMap monthName?,
    isNaming_monthName?.forall₂_filterMap (Rule.wellFormed_of_parse h).2.2,
    (describeRepeat_of_parse h).trans (describeRule_monthly days months)⟩

/-- The words of a repeat text lose nothing of its rule: texts are shown alike only if they give the
same rule or none, and each day of the week, day of the month and month has its name in the words. A
text that gives no rule is shown as it is, unless it is empty. -/
theorem describeRepeat_tells_rules :
    (∀ text text', IsRepeat text → IsRepeat text' →
      (describeRepeat text = describeRepeat text' ↔
        text = "" ∧ text' = "" ∨
          ∃ rule, Rule.parse text = .ok rule ∧ Rule.parse text' = .ok rule)) ∧
    (∀ text weekdays, Rule.parse text = .ok (.weekly weekdays) →
      ∃ names, List.Forall₂ (fun n name ↦ weekdayName? n = some name) weekdays.toList names ∧
        describeRepeat text = "weekly on " ++ listed names) ∧
    (∀ text days months, Rule.parse text = .ok (.monthly days months) →
      ∃ names, List.Forall₂ (fun n name ↦ monthName? n = some name) months.toList names ∧
        describeRepeat text =
          "monthly on " ++ (listed (days.toList.map selectorName) ++
            if months.toList = [] then "" else " in " ++ listed names)) ∧
    ∀ text e, text ≠ "" → Rule.parse text = .error e → describeRepeat text = text :=
  ⟨fun _ _ ↦ describeRepeat_eq_iff, fun _ _ ↦ describeRepeat_of_weekly,
    fun _ _ _ ↦ describeRepeat_of_monthly, fun _ _ ↦ describeRepeat_of_parse_error⟩

/-- The entries of a rule may be given in any order, a rule for some months is told from one for
all, and an eighth day of the week is shown as it was given. -/
theorem describeRepeat_tells_rules_monthly :
    describeRepeat "m -2,22 3,12" = describeRepeat "m 22,-2 12,3" ∧
      describeRepeat "m 22,-2" ≠ describeRepeat "m 22,-2 12,3" ∧
        describeRepeat "w 8" = "w 8" := by
  obtain ⟨hiff, _, _, herror⟩ := describeRepeat_tells_rules
  let days : NumberSet DaySelector := .ofList [.secondToLast, .day 22]
  have hascending : Rule.parse "m -2,22 3,12" = .ok (.monthly days (.ofList [3, 12])) := by
    decide +kernel
  have hdescending : Rule.parse "m 22,-2 12,3" = .ok (.monthly days (.ofList [3, 12])) := by
    decide +kernel
  have hall : Rule.parse "m 22,-2" = .ok (.monthly days .empty) := by decide +kernel
  have hrefused : Rule.parse "w 8" = .error (.invalidArgument (.badEntry .weekday "8")) := by
    decide +kernel
  refine ⟨?_, ?_, ?_⟩
  · apply (hiff _ _ (.inr ⟨_, hascending⟩) (.inr ⟨_, hdescending⟩)).2
    exact .inr ⟨_, hascending, hdescending⟩
  · intro hsame
    rcases (hiff _ _ (.inr ⟨_, hall⟩) (.inr ⟨_, hdescending⟩)).1 hsame with
      ⟨hempty, _⟩ | ⟨rule, hrule, hrule'⟩
    · exact absurd hempty (by decide)
    · rw [hall] at hrule
      rw [hdescending, ← Except.ok.inj hrule] at hrule'
      exact absurd hrule' (by decide +kernel)
  · exact herror _ _ (by decide) hrefused

/-- The empty text gives no rule and is not shown as it is. -/
theorem describeRepeat_empty :
    Rule.parse "" = .error .emptyRule ∧ describeRepeat "" = "once" ∧ describeRepeat "" ≠ "" :=
  ⟨by decide, by decide, by decide⟩

end Agenda.View
