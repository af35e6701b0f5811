import Agenda.Calendar.Date

/-!
# Times of the day

A time as it is written, and the date on which it falls in universal time. Nothing bounds the
numbers of a written time; one that no clock shows falls on no date.
-/

namespace Agenda.DateExpression

open Calendar

/-- The number of seconds in a day. -/
def secondsPerDay : Int := 86400

/-- A time of the day as it is written. -/
structure TimeOfDay where
  hour : Nat
  minute : Nat := 0
  second : Nat := 0
  /-- Whether the written fraction of the second is so close to 1 that it counts as 1. -/
  wholeFraction : Bool := false
  /-- How far the clock is ahead of universal time, in seconds. -/
  offset : Int := 0
deriving DecidableEq, Repr

namespace TimeOfDay

/-- Whether a clock shows the time. Only a leap second, the last of its minute, has a whole second
as its fraction. -/
def IsShown (time : TimeOfDay) : Prop :=
  time.hour < 24 ∧ time.minute < 60 ∧ time.second < 60 ∧
    (time.wholeFraction = true → time.second = 59)

instance (time : TimeOfDay) : Decidable time.IsShown :=
  inferInstanceAs (Decidable (_ ∧ _))

/-- The seconds from midnight to the time on its own clock. -/
def seconds (time : TimeOfDay) : Nat := 3600 * time.hour + 60 * time.minute + time.second

/-- The days between the date of the time on its own clock and its date in universal time. -/
def dayShift (time : TimeOfDay) : Int := (time.seconds - time.offset) / secondsPerDay

/-- The date in universal time of a time on some date. -/
def on? (time : TimeOfDay) (date : Date) : Option Date :=
  if time.IsShown then date.addDays? time.dayShift else none

private theorem IsShown.seconds_lt {time : TimeOfDay} (h : time.IsShown) :
    time.seconds < 86400 := by
  obtain ⟨hhour, hminute, hsecond, -⟩ := h
  unfold seconds
  omega

/-- On a clock of universal time the date stays the same. -/
theorem IsShown.dayShift_eq_zero {time : TimeOfDay} (h : time.IsShown) (hoffset : time.offset = 0) :
    time.dayShift = 0 := by
  have hlt := h.seconds_lt
  unfold dayShift secondsPerDay
  rw [hoffset]
  omega

end TimeOfDay

end Agenda.DateExpression
