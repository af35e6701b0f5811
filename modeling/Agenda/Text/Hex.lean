/-!
# Hexadecimal digits
-/

namespace Agenda.Text

/-- The value of a hexadecimal digit in either case. -/
def hexValue? (c : Char) : Option Nat :=
  if '0' ≤ c ∧ c ≤ '9' then some (c.toNat - '0'.toNat)
  else if 'a' ≤ c ∧ c ≤ 'f' then some (c.toNat - 'a'.toNat + 10)
  else if 'A' ≤ c ∧ c ≤ 'F' then some (c.toNat - 'A'.toNat + 10)
  else none

/-- The number that a run of hexadecimal digits gives. -/
def hexNumber? (digits : List Char) : Option Nat :=
  (digits.mapM hexValue?).map fun values => values.foldl (fun n d => 16 * n + d) 0

/-- The character whose code point a run of hexadecimal digits gives. -/
def hexChar? (digits : List Char) : Option Char :=
  (hexNumber? digits).bind fun point =>
    if point.isValidChar then some (Char.ofNat point) else none

/-- The last digit of a number in base 16, in small letters. -/
def hexDigit (n : Nat) : Char := Nat.digitChar (n % 16)

end Agenda.Text
