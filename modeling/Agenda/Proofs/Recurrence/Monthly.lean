import Agenda.Proofs.Recurrence.Occurrence
import Agenda.Proofs.Recurrence.Search

/-!
# Monthly rules

The monthly walk scans the calendar for the dates that a monthly rule picks, and every month it can
pick from comes again within eight years, far sooner than the walk gives up. So the search is exact
(`firstOf_monthly`).
-/

namespace Agenda

open Calendar

private theorem NumberSet.least_of_find? {s : NumberSet Nat} {p : Nat → Bool} {a : Nat}
    (h : s.toList.find? p = some a) : a ∈ s ∧ p a = true ∧ ∀ b ∈ s, p b = true → a ≤ b := by
  obtain ⟨hp, before, after, hlist, hbefore⟩ := List.find?_eq_some_iff_append.1 h
  have hasc := s.ascending
  rw [hlist, List.pairwise_append, List.pairwise_cons] at hasc
  refine ⟨List.mem_of_find?_eq_some h, hp, fun b hb hpb ↦ ?_⟩
  change b ∈ s.toList at hb
  rw [hlist, List.mem_append, List.mem_cons] at hb
  rcases hb with hb | rfl | hb
  · exact absurd hpb (by simpa using hbefore b hb)
  · exact Nat.le_refl _
  · exact Int.ofNat_le.1 (Int.le_of_lt (hasc.2.1.1 b hb))

/-- A selector resolves to the day of a date exactly if it picks the date. -/
theorem DaySelector.resolve?_eq_day_iff (selector : DaySelector) (date : Date) :
    selector.resolve? (monthLength date.year date.month) = some date.day ↔
      selector.Picks date := by
  have hd := date.day_mem
  cases selector with
  | day number =>
    simp only [resolve?, Picks]
    split
    · rw [Option.some.injEq, eq_comm]
    · simp only [false_iff, reduceCtorEq]
      omega
  | last =>
    simp only [resolve?, Picks]
    rw [Option.some.injEq, eq_comm]
  | secondToLast =>
    simp only [resolve?, Picks]
    split
    · rw [Option.some.injEq]
      omega
    · simp only [false_iff, reduceCtorEq]
      omega

private theorem DaySelector.le_of_resolve?_eq_some {selector : DaySelector} {lastDay number : Nat}
    (h : selector.resolve? lastDay = some number) : number ≤ lastDay := by
  cases selector with
  | day n =>
    simp only [resolve?, Option.ite_none_right_eq_some, Option.some.injEq] at h
    omega
  | last => exact Nat.le_of_eq (Option.some.inj h).symm
  | secondToLast =>
    simp only [resolve?, Option.ite_none_right_eq_some, Option.some.injEq] at h
    omega

namespace Recurrence

/-- A rule for the given months includes a month if it is one of them or there are none. -/
theorem monthAllowed_eq_true_iff {months : NumberSet Nat} {month : Nat} :
    monthAllowed months month = true ↔ months.toList = [] ∨ month ∈ months := by
  unfold monthAllowed NumberSet.isEmpty
  rw [Bool.or_eq_true, List.isEmpty_iff, decide_eq_true_eq]

/-- The days picked in a month are those its selectors resolve to. -/
theorem mem_resolveDays_iff {days : NumberSet DaySelector} {date : Date} (h : ¬date.InFinalMonth)
    {number : Nat} : number ∈ resolveDays days date.year date.month ↔
      ∃ selector ∈ days,
        selector.resolve? (monthLength date.year date.month) = some number := by
  unfold resolveDays
  rw [lastDayOfMonth?_of_not_inFinalMonth h]
  change number ∈ NumberSet.ofList _ ↔ _
  rw [NumberSet.mem_ofList, List.mem_filterMap]
  rfl

/-- The date picked in a month is the first one not before the cursor. -/
theorem firstOf_pickedFrom? (days : NumberSet DaySelector) {date : Date}
    (h : ¬date.InFinalMonth) :
    FirstOf {x | date ≤ x ∧ x.monthCount = date.monthCount ∧ ∃ selector ∈ days, selector.Picks x}
      (pickedFrom? days date) := by
  -- A date of this month is picked if and only if its day is one of the resolved ones.
  have hmem : ∀ x : Date, x.monthCount = date.monthCount →
      ((∃ selector ∈ days, selector.Picks x) ↔
        x.day ∈ resolveDays days date.year date.month) := by
    intro x hx
    obtain ⟨hy, hm⟩ := Date.monthCount_eq_iff.1 hx
    rw [mem_resolveDays_iff h, ← hy, ← hm]
    exact exists_congr fun selector ↦ and_congr Iff.rfl
      (selector.resolve?_eq_day_iff x).symm
  unfold pickedFrom?
  cases hfind : (resolveDays days date.year date.month).toList.find? (date.day ≤ ·) with
  | none =>
    refine Set.eq_empty_of_forall_notMem fun x ⟨hle, hcount, hpicks⟩ ↦ ?_
    have hday := (Date.le_iff_day_le hcount.symm).1 hle
    have := List.find?_eq_none.1 hfind x.day ((hmem x hcount).1 hpicks)
    simp only [decide_eq_true_eq] at this
    exact this hday
  | some number =>
    obtain ⟨hin, hle, hleast⟩ := NumberSet.least_of_find? hfind
    rw [decide_eq_true_eq] at hle
    have hlen : number ≤ monthLength date.year date.month := by
      obtain ⟨selector, _, hresolve⟩ := (mem_resolveDays_iff h).1 hin
      exact DaySelector.le_of_resolve?_eq_some hresolve
    have hd := date.day_mem
    let picked : Date := ⟨date.year, date.month, number, date.year_mem, by omega⟩
    have hpicked : Date.ofCivil? date.year date.month number = some picked :=
      Date.ofCivil?_eq_some_iff.2 ⟨rfl, rfl, rfl⟩
    have hcount : picked.monthCount = date.monthCount := rfl
    rw [Option.bind_some, hpicked]
    refine ⟨⟨(Date.le_iff_day_le hcount.symm).2 hle, hcount, (hmem picked hcount).2 hin⟩, ?_⟩
    rintro x ⟨hx, hxcount, hpicks⟩
    rw [Date.le_iff_day_le (hcount.trans hxcount.symm)]
    have hday := (Date.le_iff_day_le hxcount.symm).1 hx
    exact hleast x.day ((hmem x hxcount).1 hpicks) (decide_eq_true hday)

private theorem pickedFrom?_of_inFinalMonth (days : NumberSet DaySelector) {date : Date}
    (h : date.InFinalMonth) : pickedFrom? days date = none := by
  unfold pickedFrom? resolveDays
  rw [lastDayOfMonth?_of_inFinalMonth h]
  rfl

variable {days : NumberSet DaySelector} {months : NumberSet Nat}

/-- A step of a monthly walk lands on the date picked in an allowed month, and otherwise goes on to
the next month. -/
theorem monthlyStep_cases (days : NumberSet DaySelector) (months : NumberSet Nat) (cursor : Date) :
    (∃ picked, monthAllowed months cursor.month = true ∧ pickedFrom? days cursor = some picked ∧
      monthlyStep days months (some cursor) = some ⟨some picked, picked.next?⟩) ∨
    ((monthAllowed months cursor.month = true → pickedFrom? days cursor = none) ∧
      monthlyStep days months (some cursor) = some ⟨none, cursor.firstOfNextMonth?⟩) := by
  by_cases hallowed : monthAllowed months cursor.month = true
  · cases hpicked : pickedFrom? days cursor with
    | some picked =>
      refine .inl ⟨picked, hallowed, rfl, ?_⟩
      simp only [monthlyStep, Option.map_some, hallowed, hpicked, if_true]
    | none =>
      refine .inr ⟨fun _ ↦ rfl, ?_⟩
      simp only [monthlyStep, Option.map_some, hallowed, hpicked, if_true]
  · refine .inr ⟨fun h ↦ absurd h hallowed, ?_⟩
    simp only [monthlyStep, Option.map_some, if_neg hallowed]

/-- A date picked in an allowed month is the first one from the cursor on that the rule picks. -/
theorem isLeast_of_pickedFrom? {cursor picked : Date}
    (hallowed : monthAllowed months cursor.month = true)
    (hpicked : pickedFrom? days cursor = some picked) :
    IsLeast {x | cursor ≤ x ∧ Rule.PicksDay days months x ∧ ¬x.InFinalMonth} picked := by
  have hfinal : ¬cursor.InFinalMonth := fun h ↦ by
    rw [pickedFrom?_of_inFinalMonth days h] at hpicked
    exact absurd hpicked (by simp)
  obtain ⟨⟨hle, hcount, hpicks⟩, hleast⟩ := (firstOf_pickedFrom? days hfinal).eq_some_iff.1 hpicked
  refine ⟨⟨hle, ⟨?_, hpicks⟩, ?_⟩, ?_⟩
  · rw [(Date.monthCount_eq_iff.1 hcount).2]
    exact monthAllowed_eq_true_iff.1 hallowed
  · rw [Date.inFinalMonth_iff_of_monthCount_eq hcount]
    exact hfinal
  · rintro x ⟨hx, hpicksDay, _⟩
    rcases Int.lt_or_eq_of_le (Date.monthCount_le_of_le hx) with hlt | heq
    · exact le_of_lt (Date.lt_of_monthCount_lt (by omega))
    · exact hleast ⟨hx, heq.symm, hpicksDay.2⟩

/-- If no date is picked in the month of the cursor, the next one is of a later month. -/
theorem monthCount_lt_of_pickedFrom?_eq_none {cursor x : Date}
    (hnone : monthAllowed months cursor.month = true → pickedFrom? days cursor = none)
    (hle : cursor ≤ x) (hpicks : Rule.PicksDay days months x) (hfinal : ¬x.InFinalMonth) :
    cursor.monthCount < x.monthCount := by
  rcases Int.lt_or_eq_of_le (Date.monthCount_le_of_le hle) with hlt | heq
  · exact hlt
  · -- In the month of the cursor the date would have been picked.
    have hcursor : ¬cursor.InFinalMonth := by
      rw [Date.inFinalMonth_iff_of_monthCount_eq heq]
      exact hfinal
    have hallowed : monthAllowed months cursor.month = true := by
      rw [monthAllowed_eq_true_iff, (Date.monthCount_eq_iff.1 heq).2]
      exact hpicks.1
    have hpicked := hnone hallowed
    have hempty := (firstOf_pickedFrom? days hcursor).eq_none_iff.1 hpicked
    have hmem : x ∈ {x | cursor ≤ x ∧ x.monthCount = cursor.monthCount ∧
        ∃ selector ∈ days, selector.Picks x} := ⟨hle, heq.symm, hpicks.2⟩
    rw [hempty] at hmem
    exact absurd hmem (Set.notMem_empty x)

/-- A monthly walk scans for the picked dates outside the final month, month by month. -/
theorem isScan_monthlyStep (days : NumberSet DaySelector) (months : NumberSet Nat) :
    IsScan (fun x ↦ Rule.PicksDay days months x ∧ ¬x.InFinalMonth) Date.monthCount
      (monthlyStep days months) where
  place_mono := Date.monthCount_le_of_le
  step_none := rfl
  step_some cursor := by
    rcases monthlyStep_cases days months cursor with
      ⟨picked, hallowed, hpicked, hstep⟩ | ⟨hnone, hstep⟩
    · exact .inl ⟨picked, _, hstep, isLeast_of_pickedFrom? hallowed hpicked⟩
    · refine .inr ⟨_, hstep, ⟨fun later hlater ↦ ?_, fun x hx hfits ↦ ?_⟩⟩
      · have hlt := (Date.firstOfNextMonth_le_iff hlater).1 le_rfl
        exact ⟨le_of_lt (Date.lt_firstOfNextMonth hlater), hlt⟩
      · have hlt := monthCount_lt_of_pickedFrom?_eq_none hnone hx hfits.1 hfits.2
        exact Date.exists_firstOfNextMonth_le hlt

end Recurrence

/-! ### Recurrence within eight years -/

namespace Rule

variable {days : NumberSet DaySelector} {months : NumberSet Nat}

/-- In every year of the same kind a monthly rule picks the same month and day again. -/
theorem exists_picksDay_of_isLeap_eq {x : Date} (h : PicksDay days months x) {year : Int}
    (hyear : firstYear ≤ year ∧ year ≤ lastYear) (hkind : isLeap year = isLeap x.year) :
    ∃ y : Date, y.year = year ∧ y.month = x.month ∧ y.day = x.day ∧ PicksDay days months y := by
  have hlen := monthLength_eq_of_isLeap_eq hkind x.month
  obtain ⟨hmonth, selector, hmem, hpicks⟩ := h
  let y : Date := ⟨year, x.month, x.day, hyear, by rw [hlen]; exact x.day_mem⟩
  refine ⟨y, rfl, rfl, rfl, hmonth, selector, hmem, ?_⟩
  -- The selector sees only the day and the length of the month, which are those of `x`.
  have hday : y.day = x.day := rfl
  have hylen : monthLength y.year y.month = monthLength x.year x.month := hlen
  unfold DaySelector.Picks at hpicks ⊢
  rw [hylen, hday]
  exact hpicks

/-- A date that a monthly rule picks has another one within the eight years after any year. -/
theorem exists_picksDay {x : Date} (h : PicksDay days months x) {year : Int}
    (hfirst : firstYear ≤ year) (hlast : year + 8 ≤ lastYear) :
    ∃ y : Date, year < y.year ∧ y.year ≤ year + 8 ∧ y.month = x.month ∧
      PicksDay days months y := by
  obtain ⟨later, hlt, hle, hkind⟩ := exists_isLeap_eq year (isLeap x.year)
  obtain ⟨y, rfl, hmonth, _, hpicks⟩ := exists_picksDay_of_isLeap_eq h (by omega) hkind
  exact ⟨y, hlt, hle, hmonth, hpicks⟩

end Rule

namespace Recurrence

/-- The search of a monthly rule gives the first picked date after both dates. -/
theorem firstOf_monthly (now anchor : Date) (days : NumberSet DaySelector)
    (months : NumberSet Nat) :
    FirstOf {x | now < x ∧ anchor < x ∧ Rule.PicksDay days months x ∧ ¬x.InFinalMonth}
      (find? now anchor (.monthly days months)) := by
  refine (isScan_monthlyStep days months).firstOf_search ?_ now anchor
  intro cursor x hle hfits
  have hc := cursor.month_mem
  have hx := x.month_mem
  have hcy := cursor.year_mem
  have hxy := x.year_mem
  by_cases hnear : x.year ≤ cursor.year + 8
  · refine ⟨x, hle, hfits, ?_⟩
    unfold Date.monthCount maxSteps
    omega
  · obtain ⟨y, hlt, hyle, hm, hpicks⟩ :=
      Rule.exists_picksDay hfits.1 hcy.1 (show cursor.year + 8 ≤ lastYear by omega)
    refine ⟨y, le_of_lt (Date.lt_of_year_lt hlt), ⟨hpicks, ?_⟩, ?_⟩
    · unfold Date.InFinalMonth
      omega
    · unfold Date.monthCount maxSteps
      omega

end Recurrence

end Agenda
