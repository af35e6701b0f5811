import Agenda.Proofs.Recurrence.Monthly

/-!
# Month by month

A walk that always moves its cursor forward, and past no date that fits without landing on it, lands
on all of these dates from its start on (`landsOn_iff`). A monthly walk is one: it leaves a month
for the start of the next one, which is the day directly after the month's last day
(`lastDayOfMonth?_meets_firstOfNextMonth?`).
-/

namespace Agenda

open Calendar Recurrence

/-- The cursors of a walk that starts at a date. -/
inductive Visits (step : Option Date → Option (Step (Option Date))) (start : Date) : Date → Prop
  /-- The cursor stands at the start. -/
  | start : Visits step start start
  /-- A step moves the cursor. -/
  | moves {cursor next : Date} {landing : Option Date} (hvisits : Visits step start cursor)
      (h : step (some cursor) = some ⟨landing, some next⟩) : Visits step start next

/-- A walk that starts at a date lands on another. -/
def LandsOn (step : Option Date → Option (Step (Option Date))) (start date : Date) : Prop :=
  ∃ cursor next, Visits step start cursor ∧ step (some cursor) = some ⟨some date, next⟩

/-- A step from a cursor leaves out no date that fits. -/
structure Advances (fits : Date → Prop) (cursor : Date) (landing next : Option Date) : Prop where
  forward : ∀ later, next = some later → cursor < later
  lands : ∀ x, landing = some x → cursor ≤ x ∧ fits x
  keeps : ∀ x, cursor ≤ x → fits x → landing = some x ∨ ∃ later, next = some later ∧ later ≤ x

section Walks

variable {step : Option Date → Option (Step (Option Date))} {fits : Date → Prop}
  {start cursor x : Date} {landing next : Option Date}
  (hstep : ∀ cursor, ∃ landing next,
    step (some cursor) = some ⟨landing, next⟩ ∧ Advances fits cursor landing next)

include hstep

private theorem advances_of_step (h : step (some cursor) = some ⟨landing, next⟩) :
    Advances fits cursor landing next := by
  obtain ⟨_, _, hfound, hadvances⟩ := hstep cursor
  cases h.symm.trans hfound
  exact hadvances

private theorem le_of_visits (h : Visits step start cursor) : start ≤ cursor := by
  induction h with
  | start => exact le_rfl
  | moves _ h ih => exact le_trans ih (le_of_lt ((advances_of_step hstep h).forward _ rfl))

/-- A date that fits and lies ahead of the cursor is landed on. -/
theorem landsOn_of_visits (hvisits : Visits step start cursor) (hle : cursor ≤ x) (hfits : fits x) :
    LandsOn step start x := by
  -- Each step brings the cursor closer to the date.
  induction hleft : (x.number - cursor.number).toNat using Nat.strong_induction_on
    generalizing cursor with
  | _ left ih =>
    obtain ⟨landing, next, hfound, hadvances⟩ := hstep cursor
    rcases hadvances.keeps x hle hfits with rfl | ⟨later, rfl, hlater⟩
    · exact ⟨cursor, next, hvisits, hfound⟩
    · have hforward := Date.lt_iff_number_lt.1 (hadvances.forward later rfl)
      have hahead := Date.le_iff_number_le.1 hlater
      exact ih _ (by omega) (.moves hvisits hfound) hlater rfl

/-- A walk lands on all the dates from its start on that fit, and on no others. -/
theorem landsOn_iff : LandsOn step start x ↔ start ≤ x ∧ fits x := by
  constructor
  · rintro ⟨cursor, next, hvisits, hfound⟩
    obtain ⟨hle, hfits⟩ := (advances_of_step hstep hfound).lands x rfl
    exact ⟨le_trans (le_of_visits hstep hvisits) hle, hfits⟩
  · rintro ⟨hle, hfits⟩
    exact landsOn_of_visits hstep .start hle hfits

end Walks

private theorem exists_advances_monthlyStep (days : NumberSet DaySelector) (months : NumberSet Nat)
    (cursor : Date) : ∃ landing next,
      monthlyStep days months (some cursor) = some ⟨landing, next⟩ ∧
        Advances (fun x ↦ Rule.PicksDay days months x ∧ ¬x.InFinalMonth) cursor landing next := by
  rcases monthlyStep_cases days months cursor with
    ⟨picked, hallowed, hpicked, hstep⟩ | ⟨hnone, hstep⟩
  · have hleast := isLeast_of_pickedFrom? hallowed hpicked
    refine ⟨_, _, hstep, ?_, ?_, ?_⟩
    · intro later hlater
      exact lt_of_le_of_lt hleast.1.1 ((Date.lt_iff_next_le hlater).2 le_rfl)
    · intro x hx
      rw [← Option.some.inj hx]
      exact hleast.1
    · intro x hle hfits
      rcases eq_or_lt_of_le (hleast.2 ⟨hle, hfits⟩) with rfl | hlt
      · exact .inl rfl
      · -- The cursor goes on to the next day, which only the last date of the calendar lacks.
        cases hnext : picked.next? with
        | none => exact absurd hlt (not_lt_of_ge (Date.next?_eq_none_iff.1 hnext x))
        | some later => exact .inr ⟨later, rfl, (Date.lt_iff_next_le hnext).1 hlt⟩
  · refine ⟨_, _, hstep, ?_, ?_, ?_⟩
    · intro later hlater
      exact Date.lt_firstOfNextMonth hlater
    · intro x hx
      exact absurd hx (by simp)
    · -- A picked date ahead is of a later month, so there is a next month to go on to.
      intro x hle hfits
      have hlt := monthCount_lt_of_pickedFrom?_eq_none hnone hle hfits.1 hfits.2
      exact .inr (Date.exists_firstOfNextMonth_le hlt)

/-- The last day is found of exactly the calendar's months other than the final one, and it is the
greatest day that the month has by the rule of the leap years. The next month starts where a last
day is found, on the day directly after it: later than the date, and past no day but those of its
month. So a monthly walk always moves forward, and lands on all the picked dates outside the final
month from its start on. -/
theorem lastDayOfMonth?_meets_firstOfNextMonth? :
    (∀ (year : Int) (month day : Nat), lastDayOfMonth? year month = some day ↔
      (1 ≤ month ∧ month ≤ 12) ∧ (firstYear ≤ year ∧ year ≤ lastYear) ∧
        ¬(year = lastYear ∧ month = 12) ∧ IsGreatest {n | HasDay year month n} day) ∧
    (∀ date : Date,
      ((∃ next, date.firstOfNextMonth? = some next) ↔
        ∃ day, lastDayOfMonth? date.year date.month = some day) ∧
      ∀ next day, date.firstOfNextMonth? = some next →
        lastDayOfMonth? date.year date.month = some day →
        (∃ last : Date, (last.year = date.year ∧ last.month = date.month ∧ last.day = day) ∧
          last ⋖ next) ∧
        date < next ∧
        ∀ other, date ≤ other → other < next →
          other.year = date.year ∧ other.month = date.month) ∧
    ∀ (days : NumberSet DaySelector) (months : NumberSet Nat),
      (∀ cursor landing next,
        monthlyStep days months (some cursor) = some ⟨landing, some next⟩ → cursor < next) ∧
      ∀ start x, LandsOn (monthlyStep days months) start x ↔
        start ≤ x ∧ Rule.PicksDay days months x ∧ ¬x.InFinalMonth := by
  refine ⟨fun year month day ↦ ?_, fun date ↦ ⟨?_, fun next day hnext hday ↦ ?_⟩,
    fun days months ↦ ⟨fun cursor landing next hfound ↦ ?_, fun start x ↦ ?_⟩⟩
  · rw [lastDayOfMonth?_eq_some_iff, isGreatest_hasDay_iff]
    tauto
  · rw [Date.exists_firstOfNextMonth?_iff, exists_lastDayOfMonth?_iff]
  · obtain ⟨_, rfl⟩ := lastDayOfMonth?_eq_some_iff.1 hday
    refine ⟨⟨date.lastOfMonth, ⟨rfl, rfl, rfl⟩, Date.lastOfMonth_covBy hnext⟩,
      Date.lt_firstOfNextMonth hnext, ?_⟩
    intro other hle hlt
    exact Date.monthCount_eq_iff.1 (Date.monthCount_eq_of_lt_firstOfNextMonth hnext hle hlt)
  · exact (advances_of_step (exists_advances_monthlyStep days months) hfound).forward next rfl
  · exact landsOn_iff (exists_advances_monthlyStep days months)

/-- The last day of February in a leap year before year 0 is the 29th, the day before 1 March. From
there a rule for the 31st leads on to March, and to the end of its month. -/
theorem lastDayOfMonth?_meets_firstOfNextMonth?_leap_year :
    ((Date.civil (-4) 2 10 (by decide)).firstOfNextMonth? = some (Date.civil (-4) 3 1 (by decide)) ∧
      lastDayOfMonth? (-4) 2 = some 29 ∧
      ∃ last : Date, (last.year = -4 ∧ last.month = 2 ∧ last.day = 29) ∧
        last ⋖ Date.civil (-4) 3 1 (by decide)) ∧
    (Date.civil (-4) 2 10 (by decide) ≤ Date.civil (-4) 2 29 (by decide) ∧
      Date.civil (-4) 2 29 (by decide) < Date.civil (-4) 3 1 (by decide) ∧
      (Date.civil (-4) 2 29 (by decide)).year = -4 ∧
      (Date.civil (-4) 2 29 (by decide)).month = 2) ∧
    monthlyStep (.ofList [.day 31]) (.ofList []) (some (Date.civil (-4) 2 10 (by decide))) =
      some ⟨none, some (Date.civil (-4) 3 1 (by decide))⟩ ∧
    Date.civil (-4) 2 10 (by decide) < Date.civil (-4) 3 1 (by decide) ∧
    LandsOn (monthlyStep (.ofList [.day 31]) (.ofList [])) (Date.civil (-4) 2 10 (by decide))
      (Date.civil (-4) 3 31 (by decide)) := by
  have hnext : (Date.civil (-4) 2 10 (by decide)).firstOfNextMonth? =
      some (Date.civil (-4) 3 1 (by decide)) := by decide
  have hday : lastDayOfMonth? (-4) 2 = some 29 := by decide
  have hle : Date.civil (-4) 2 10 (by decide) ≤ Date.civil (-4) 2 29 (by decide) := by decide
  have hlt : Date.civil (-4) 2 29 (by decide) < Date.civil (-4) 3 1 (by decide) := by decide
  have hstep :
      monthlyStep (.ofList [.day 31]) (.ofList []) (some (Date.civil (-4) 2 10 (by decide))) =
        some ⟨none, some (Date.civil (-4) 3 1 (by decide))⟩ := rfl
  obtain ⟨_, hmonths, hwalks⟩ := lastDayOfMonth?_meets_firstOfNextMonth?
  obtain ⟨hlast, _, hwithin⟩ := (hmonths (Date.civil (-4) 2 10 (by decide))).2 _ _ hnext hday
  obtain ⟨hforward, hlands⟩ := hwalks (.ofList [.day 31]) (.ofList [])
  exact ⟨⟨hnext, hday, hlast⟩, ⟨hle, hlt, hwithin _ hle hlt⟩, hstep, hforward _ _ _ hstep,
    (hlands _ _).2 (by decide)⟩

end Agenda
