import Mathlib.Algebra.Group.Nat.Defs
import Agenda.Text.Numeral

/-!
# Numerals of a fixed width

Runs of digits of one length are in the order of their values (`lt_iff_ofDigitChars_lt`). So a run
of digits is the zero-padded numeral of its value at its own length, and reading and padding are
inverse to each other (`readNat?_eq_some_iff`).
-/

namespace Agenda.Text

/-- A padded numeral is at least as long as its width. -/
theorem le_length_zeroPadded (width n : Nat) : width ≤ (zeroPadded width n).length := by
  rw [zeroPadded, List.length_append, List.length_replicate]
  omega

/-- A number that fits the width is padded to it. -/
theorem length_zeroPadded {width n : Nat} (hpos : 0 < width) (h : n < 10 ^ width) :
    (zeroPadded width n).length = width := by
  have hle : (digits n).length ≤ width := (Nat.length_toDigits_le_iff (by decide) hpos).2 h
  rw [zeroPadded, List.length_append, List.length_replicate]
  omega

/-- A padded numeral consists of digits. -/
theorem all_isDigit_zeroPadded (width n : Nat) :
    (zeroPadded width n).all Char.isDigit = true := by
  have hzeros : (List.replicate (width - (digits n).length) '0').all Char.isDigit = true := by
    rw [List.all_eq_true]
    intro c hc
    rw [List.eq_of_mem_replicate hc]
    rfl
  rw [zeroPadded, List.all_append, hzeros, all_isDigit_digits]
  rfl

/-- Padding does not change the value. -/
theorem ofDigitChars_zeroPadded (width n : Nat) :
    Nat.ofDigitChars 10 (zeroPadded width n) 0 = n := by
  rw [zeroPadded, Nat.ofDigitChars_append, Nat.ofDigitChars_replicate_zero, Nat.mul_zero, digits,
    Nat.ofDigitChars_ten_toDigits]

/-- A padded numeral has at least one digit. -/
theorem zeroPadded_ne_nil (width n : Nat) : zeroPadded width n ≠ [] := by
  rw [zeroPadded, ne_eq, List.append_eq_nil_iff, not_and]
  exact fun _ ↦ digits_ne_nil n

/-- A padded numeral reads back. -/
theorem readNat?_zeroPadded (width n : Nat) : readNat? (zeroPadded width n) = some n := by
  rw [readNat?, if_pos ⟨zeroPadded_ne_nil width n, all_isDigit_zeroPadded width n⟩,
    ofDigitChars_zeroPadded]

/-- A digit stands for a number below ten. -/
theorem digit_lt {c : Char} (h : c.isDigit = true) : 48 ≤ c.toNat ∧ c.toNat < 58 := by
  simp only [Char.isDigit, Bool.and_eq_true, decide_eq_true_eq] at h
  have h1 := UInt32.le_iff_toNat_le.1 h.1
  have h2 := UInt32.le_iff_toNat_le.1 h.2
  exact ⟨h1, Nat.lt_succ_of_le h2⟩

private theorem ofDigitChars_cons_zero (c : Char) (cs : List Char) :
    Nat.ofDigitChars 10 (c :: cs) 0 =
      10 ^ cs.length * (c.toNat - 48) + Nat.ofDigitChars 10 cs 0 := by
  rw [Nat.ofDigitChars_cons, Nat.ofDigitChars_eq_ofDigitChars_zero, show '0'.toNat = 48 from rfl,
    Nat.mul_zero, Nat.zero_add]

private theorem ofDigitChars_lt {cs : List Char} (h : cs.all Char.isDigit = true) :
    Nat.ofDigitChars 10 cs 0 < 10 ^ cs.length := by
  induction cs with
  | nil => decide
  | cons c cs ih =>
    rw [List.all_cons, Bool.and_eq_true] at h
    have hc := digit_lt h.1
    have hcs := ih h.2
    rw [ofDigitChars_cons_zero, List.length_cons, Nat.pow_succ]
    have : 10 ^ cs.length * (c.toNat - 48) ≤ 10 ^ cs.length * 9 :=
      Nat.mul_le_mul_left _ (by omega)
    omega

private theorem ofDigitChars_cons_lt_iff {c d : Char} {cs ds : List Char} (hc : c.isDigit = true)
    (hd : d.isDigit = true) (hcs : cs.all Char.isDigit = true) (hds : ds.all Char.isDigit = true)
    (hlen : cs.length = ds.length) :
    Nat.ofDigitChars 10 (c :: cs) 0 < Nat.ofDigitChars 10 (d :: ds) 0 ↔
      c.toNat < d.toNat ∨ c = d ∧ Nat.ofDigitChars 10 cs 0 < Nat.ofDigitChars 10 ds 0 := by
  have hcDigit := digit_lt hc
  have hdDigit := digit_lt hd
  have hcValue := ofDigitChars_lt hcs
  have hdValue := ofDigitChars_lt hds
  rw [ofDigitChars_cons_zero, ofDigitChars_cons_zero, hlen]
  rw [hlen] at hcValue
  -- Where the first digits differ, they outweigh all digits behind them.
  rcases Nat.lt_trichotomy c.toNat d.toNat with hlt | heq | hgt
  · have hstep : 10 ^ ds.length * (c.toNat - 48 + 1) ≤ 10 ^ ds.length * (d.toNat - 48) :=
      Nat.mul_le_mul_left _ (by omega)
    rw [Nat.mul_add, Nat.mul_one] at hstep
    exact iff_of_true (by omega) (.inl hlt)
  · obtain rfl := Char.toNat_inj.1 heq
    constructor
    · intro h
      exact .inr ⟨rfl, by omega⟩
    · rintro (h | ⟨_, h⟩)
      · exact absurd h (Nat.lt_irrefl _)
      · omega
  · have hstep : 10 ^ ds.length * (d.toNat - 48 + 1) ≤ 10 ^ ds.length * (c.toNat - 48) :=
      Nat.mul_le_mul_left _ (by omega)
    rw [Nat.mul_add, Nat.mul_one] at hstep
    apply iff_of_false
    · omega
    · rintro (h | ⟨rfl, _⟩)
      · omega
      · exact Nat.lt_irrefl _ hgt

/-- Runs of digits of one length are in the order of their values. -/
theorem lt_iff_ofDigitChars_lt {cs ds : List Char} (hcs : cs.all Char.isDigit = true)
    (hds : ds.all Char.isDigit = true) (hlen : cs.length = ds.length) :
    cs < ds ↔ Nat.ofDigitChars 10 cs 0 < Nat.ofDigitChars 10 ds 0 := by
  induction cs generalizing ds with
  | nil =>
    obtain rfl := List.eq_nil_of_length_eq_zero hlen.symm
    exact iff_of_false (List.not_lt_nil _) (Nat.lt_irrefl _)
  | cons c cs ih =>
    cases ds with
    | nil => exact absurd hlen (by simp)
    | cons d ds =>
      rw [List.all_cons, Bool.and_eq_true] at hcs hds
      rw [List.length_cons, List.length_cons, Nat.add_right_cancel_iff] at hlen
      rw [List.cons_lt_cons_iff, ofDigitChars_cons_lt_iff hcs.1 hds.1 hcs.2 hds.2 hlen,
        ih hcs.2 hds.2 hlen, Char.lt_def, UInt32.lt_iff_toNat_lt]
      rfl

private theorem eq_of_ofDigitChars_eq {cs ds : List Char} (hcs : cs.all Char.isDigit = true)
    (hds : ds.all Char.isDigit = true) (hlen : cs.length = ds.length)
    (h : Nat.ofDigitChars 10 cs 0 = Nat.ofDigitChars 10 ds 0) : cs = ds := by
  apply List.le_antisymm
  · intro hlt
    rw [lt_iff_ofDigitChars_lt hds hcs hlen.symm] at hlt
    omega
  · intro hlt
    rw [lt_iff_ofDigitChars_lt hcs hds hlen] at hlt
    omega

/-- A run of digits reads as a number exactly if it is the numeral of the number padded to the
length of the run. -/
theorem readNat?_eq_some_iff {cs : List Char} {width n : Nat} (hpos : 0 < width)
    (hlen : cs.length = width) :
    readNat? cs = some n ↔ n < 10 ^ width ∧ cs = zeroPadded width n := by
  constructor
  · intro h
    unfold readNat? at h
    split at h
    · next hdigits =>
      have hvalue := Option.some.inj h
      have hlt := ofDigitChars_lt hdigits.2
      rw [hvalue, hlen] at hlt
      refine ⟨hlt, eq_of_ofDigitChars_eq hdigits.2 (all_isDigit_zeroPadded width n) ?_ ?_⟩
      · rw [hlen, length_zeroPadded hpos hlt]
      · rw [hvalue, ofDigitChars_zeroPadded]
    · exact absurd h (by simp)
  · rintro ⟨_, rfl⟩
    exact readNat?_zeroPadded width n

end Agenda.Text
