import Agenda.Proofs.Calendar.DayNumber

/-!
# Years of the calendar

A date moves on year by year: the same month and day, where 29 February becomes 1 March and stays
there. Adding several years at once comes to the same from the first single year on
(`yearsLater?_succ`).
-/

namespace Agenda.Calendar.Date

/-- The date is a 29 February. -/
def IsLeapDay (date : Date) : Prop := date.month = 2 ∧ date.day = 29

instance (date : Date) : Decidable date.IsLeapDay := inferInstanceAs (Decidable (_ ∧ _))

/-- The same month and day of the next year; 29 February becomes 1 March. -/
def nextYear? (date : Date) : Option Date :=
  if date.IsLeapDay then ofCivil? (date.year + 1) 3 1
  else ofCivil? (date.year + 1) date.month date.day

/-- The date after a number of single years, each counted from the outcome of the one before. -/
def yearsLater? (date : Date) : Nat → Option Date
  | 0 => some date
  | years + 1 => (date.yearsLater? years).bind nextYear?

/-- A day other than 29 February exists in every year. -/
theorem day_mem_of_not_isLeapDay {date : Date} (h : ¬date.IsLeapDay) (year : Int) :
    1 ≤ date.day ∧ date.day ≤ monthLength year date.month := by
  have hd := date.day_mem
  unfold IsLeapDay at h
  by_cases hm : date.month = 2
  · rw [hm] at hd ⊢
    simp only [monthLength] at hd ⊢
    split at hd <;> split <;> omega
  · rw [monthLength_eq_of_ne_two hm year date.year]
    exact hd

/-- Years added to a day other than 29 February keep its month and day. -/
theorem addYears?_of_not_isLeapDay {date : Date} (h : ¬date.IsLeapDay) (years : Nat) :
    date.addYears? years = ofCivil? (date.year + years) date.month date.day := by
  unfold addYears?
  cases hsame : ofCivil? (date.year + years) date.month date.day with
  | some later => rfl
  | none =>
    have hday := day_mem_of_not_isLeapDay h (date.year + years)
    have hyear := ofCivil?_eq_none_iff.1 hsame
    rw [Option.none_or, ofCivil?_eq_none_iff]
    exact fun hmem ↦ hyear ⟨hmem.1, hday⟩

private theorem isLeap_succ_of_isLeapDay {date : Date} (h : date.IsLeapDay) :
    isLeap (date.year + 1) = false := by
  have hd := date.day_mem
  rw [h.1, h.2] at hd
  have hleap : isLeap date.year = true := by
    by_contra hn
    simp [monthLength, hn] at hd
  rw [Bool.eq_false_iff]
  intro hsucc
  have h1 := (isLeap_iff _).1 hleap
  have h2 := (isLeap_iff _).1 hsucc
  omega

/-- One year added is the next year. -/
theorem addYears?_one (date : Date) : date.addYears? 1 = date.nextYear? := by
  unfold nextYear?
  split
  · next h =>
    have hnone : ofCivil? (date.year + (1 : Nat)) date.month date.day = none := by
      rw [ofCivil?_eq_none_iff, h.1, h.2]
      simp [monthLength, isLeap_succ_of_isLeapDay h]
    unfold addYears?
    rw [hnone, Option.none_or]
    rfl
  · next h => exact addYears?_of_not_isLeapDay h 1

/-- The next year is one on, and its day is no 29 February. -/
theorem nextYear?_spec {date later : Date} (h : date.nextYear? = some later) :
    later.year = date.year + 1 ∧ ¬later.IsLeapDay := by
  unfold nextYear? at h
  split at h
  · obtain ⟨hy, hm, _⟩ := ofCivil?_eq_some_iff.1 h
    exact ⟨hy, fun hleap ↦ by unfold IsLeapDay at hleap; omega⟩
  · next hleap =>
    obtain ⟨hy, hm, hd⟩ := ofCivil?_eq_some_iff.1 h
    unfold IsLeapDay at hleap ⊢
    exact ⟨hy, by omega⟩

/-- Only a date of the calendar's last year has no next one. -/
theorem exists_nextYear? {date : Date} (h : date.year < lastYear) :
    ∃ later, date.nextYear? = some later := by
  have hfirst := date.year_mem.1
  have hyear : firstYear ≤ date.year + 1 ∧ date.year + 1 ≤ lastYear := by omega
  unfold nextYear?
  split
  · exact ⟨⟨date.year + 1, 3, 1, hyear, by simp [monthLength]⟩,
      ofCivil?_eq_some_iff.2 ⟨rfl, rfl, rfl⟩⟩
  · next hleap =>
    exact ⟨⟨date.year + 1, date.month, date.day, hyear, day_mem_of_not_isLeapDay hleap _⟩,
      ofCivil?_eq_some_iff.2 ⟨rfl, rfl, rfl⟩⟩

/-- Single years from a day other than 29 February keep its month and day. -/
theorem yearsLater?_of_not_isLeapDay {date : Date} (h : ¬date.IsLeapDay) (years : Nat) :
    date.yearsLater? years = date.addYears? years := by
  rw [addYears?_of_not_isLeapDay h]
  induction years with
  | zero => exact (ofCivil?_eq_some_iff.2 ⟨by simp, rfl, rfl⟩).symm
  | succ years ih =>
    have hday := day_mem_of_not_isLeapDay h
    rw [yearsLater?, ih]
    cases hbefore : ofCivil? (date.year + years) date.month date.day with
    | none =>
      -- The years before have left the calendar already.
      have hyear := ofCivil?_eq_none_iff.1 hbefore
      have hfirst := date.year_mem.1
      symm
      rw [Option.bind_none, ofCivil?_eq_none_iff]
      intro hmem
      refine hyear ⟨?_, hday _⟩
      omega
    | some before =>
      obtain ⟨hy, hm, hd⟩ := ofCivil?_eq_some_iff.1 hbefore
      have hn : ¬before.IsLeapDay := by
        unfold IsLeapDay at h ⊢
        omega
      rw [Option.bind_some, nextYear?, if_neg hn, hy, hm, hd, Int.natCast_succ, ← Int.add_assoc]

/-- The years that follow a date are those that follow its next year. -/
theorem yearsLater?_succ_left (date : Date) (years : Nat) :
    date.yearsLater? (years + 1) = date.nextYear?.bind fun first ↦ first.yearsLater? years := by
  induction years with
  | zero =>
    rw [yearsLater?, yearsLater?, Option.bind_some]
    cases date.nextYear? <;> rfl
  | succ years ih =>
    rw [yearsLater?, ih, Option.bind_assoc]
    rfl

/-- Only the first of several single years can meet a 29 February that does not exist, so the
others may be added at once. -/
theorem yearsLater?_succ (date : Date) (years : Nat) :
    date.yearsLater? (years + 1) = (date.addYears? 1).bind fun first ↦ first.addYears? years := by
  rw [yearsLater?_succ_left, addYears?_one]
  cases hfirst : date.nextYear? with
  | none => rfl
  | some first => exact yearsLater?_of_not_isLeapDay (nextYear?_spec hfirst).2 years

/-- The years that follow years. -/
theorem yearsLater?_add (date : Date) (a b : Nat) :
    date.yearsLater? (a + b) = (date.yearsLater? a).bind fun later ↦ later.yearsLater? b := by
  induction b with
  | zero => cases date.yearsLater? a <;> rfl
  | succ b ih =>
    rw [← Nat.add_assoc, yearsLater?, ih, Option.bind_assoc]
    rfl

/-- A number of single years raises the year by that number. -/
theorem year_of_yearsLater? {date later : Date} {years : Nat}
    (h : date.yearsLater? years = some later) : later.year = date.year + years := by
  induction years generalizing later with
  | zero =>
    rw [← Option.some.inj h]
    simp
  | succ years ih =>
    obtain ⟨before, hbefore, hnext⟩ := Option.bind_eq_some_iff.1 h
    have := ih hbefore
    have := (nextYear?_spec hnext).1
    push_cast
    omega

/-- The years up to the last one of the calendar can be counted. -/
theorem exists_yearsLater? {date : Date} {years : Nat} (h : date.year + years ≤ lastYear) :
    ∃ later, date.yearsLater? years = some later := by
  induction years with
  | zero => exact ⟨date, rfl⟩
  | succ years ih =>
    obtain ⟨earlier, hearlier⟩ := ih (by omega)
    have hyear := year_of_yearsLater? hearlier
    obtain ⟨later, hlater⟩ := exists_nextYear? (show earlier.year < lastYear by omega)
    exact ⟨later, by rw [yearsLater?, hearlier, Option.bind_some, hlater]⟩

/-- Fewer years lead to a date where more do. -/
theorem exists_yearsLater?_of_le {date later : Date} {years : Nat}
    (h : date.yearsLater? years = some later) {fewer : Nat} (hle : fewer ≤ years) :
    ∃ earlier, date.yearsLater? fewer = some earlier := by
  obtain ⟨more, rfl⟩ := Nat.exists_eq_add_of_le hle
  rw [yearsLater?_add] at h
  obtain ⟨earlier, hearlier, _⟩ := Option.bind_eq_some_iff.1 h
  exact ⟨earlier, hearlier⟩

end Agenda.Calendar.Date
