/-!
# Decimal numerals

Whole numbers as texts. Writing gives the shortest numeral, with a `-` in front of a negative
number. Reading is more liberal: one sign of either kind and leading zeros are allowed, and the
number has to fit a signed 64-bit word. `readInt64?_decimal` ties the two together.
-/

namespace Agenda.Text

/-- The decimal digits of a natural number, without leading zeros. -/
def digits (n : Nat) : List Char := Nat.toDigits 10 n

/-- The decimal numeral of an integer. -/
def decimal : Int → List Char
  | .ofNat n => digits n
  | .negSucc n => '-' :: digits (n + 1)

/-- The digits of a number, filled up with zeros on the left to the given width. -/
def zeroPadded (width n : Nat) : List Char :=
  List.replicate (width - (digits n).length) '0' ++ digits n

/-- Reads one or more ASCII digits and nothing else. -/
def readNat? (cs : List Char) : Option Nat :=
  if cs ≠ [] ∧ cs.all Char.isDigit then some (Nat.ofDigitChars 10 cs 0) else none

/-- Reads a run of digits behind at most one sign. -/
def readInt? : List Char → Option Int
  | '-' :: cs => (readNat? cs).map fun n => -(n : Int)
  | '+' :: cs => (readNat? cs).map Int.ofNat
  | cs => (readNat? cs).map Int.ofNat

/-- The integers of a signed 64-bit word. -/
def IsInt64 (n : Int) : Prop := -9223372036854775808 ≤ n ∧ n < 9223372036854775808

instance (n : Int) : Decidable (IsInt64 n) :=
  inferInstanceAs (Decidable (_ ∧ _))

/-- The least number that does not fit 32 bits. -/
def limit32 : Nat := 4294967296

/-- The least number that does not fit 64 bits. -/
def limit64 : Nat := 18446744073709551616

/-- Reads an integer that fits a signed 64-bit word. -/
def readInt64? (cs : List Char) : Option Int :=
  (readInt? cs).filter fun n => decide (IsInt64 n)

/-- Reads an unsigned number with at most one `+` in front, below the given bound. -/
def readNatBelow? (bound : Nat) (cs : List Char) : Option Nat :=
  let unsigned := match cs with
    | '+' :: rest => rest
    | _ => cs
  (readNat? unsigned).filter fun n => decide (n < bound)

/-- A numeral consists of digits. -/
theorem all_isDigit_digits (n : Nat) : (digits n).all Char.isDigit = true := by
  rw [List.all_eq_true]
  intro c hc
  exact Nat.isDigit_of_mem_toDigits (by decide) (by decide) hc

/-- A numeral has at least one digit. -/
theorem digits_ne_nil (n : Nat) : digits n ≠ [] := Nat.toDigits_ne_nil

/-- A written natural number reads back. -/
theorem readNat?_digits (n : Nat) : readNat? (digits n) = some n := by
  rw [readNat?, if_pos ⟨digits_ne_nil n, all_isDigit_digits n⟩, digits,
    Nat.ofDigitChars_ten_toDigits]

/-- A numeral starts with a digit, so with neither sign. -/
private theorem readInt?_digits (n : Nat) : readInt? (digits n) = some (n : Int) := by
  cases h : digits n with
  | nil => exact absurd h (digits_ne_nil n)
  | cons c cs =>
    have hall := all_isDigit_digits n
    rw [h, List.all_cons, Bool.and_eq_true] at hall
    have hread := readNat?_digits n
    rw [h] at hread
    unfold readInt?
    split
    · next heq =>
      injection heq with hc _
      exact absurd (hc ▸ hall.1) (by decide)
    · next heq =>
      injection heq with hc _
      exact absurd (hc ▸ hall.1) (by decide)
    · rw [hread]
      rfl

/-- A written integer reads back. -/
theorem readInt?_decimal (n : Int) : readInt? (decimal n) = some n := by
  cases n with
  | ofNat n => exact readInt?_digits n
  | negSucc n =>
    rw [decimal, readInt?, readNat?_digits]
    rfl

/-- A written integer reads back as a word exactly when it fits one. -/
theorem readInt64?_decimal (n : Int) :
    readInt64? (decimal n) = if IsInt64 n then some n else none := by
  rw [readInt64?, readInt?_decimal, Option.filter_some]
  simp only [decide_eq_true_eq]

end Agenda.Text
