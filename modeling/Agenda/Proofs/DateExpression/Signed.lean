import Agenda.DateExpression.Parser
import Agenda.Proofs.Calendar.SearchDate

/-!
# Signed numbers as English dates

What a number with a sign says as a date in English. Behind a plus sign nothing can be read, and a
number behind a minus sign is a year (`ofChars_minus`). So the text of a day whose year does not fit
four digits is never read as that day (`dateOf_chars_ne`).
-/

namespace Agenda.DateExpression

open Calendar

/-! ### Tokens -/

private theorem readToken_of_mark {c : Char} {rest : List Char} (hblank : Text.isBlank c = false)
    (hdigit : c.isDigit = false) (hquote : isQuote c = false) (hword : startsWord c = false) :
    readToken (c :: rest) = (.mark c, rest) := by
  have hzero : c ≠ '0' := by
    rintro rfl
    exact absurd hdigit (by decide)
  simp [readToken, hblank, tokenFrom, hdigit, hquote, hword, hzero]

private theorem readToken_plus (rest : List Char) : readToken ('+' :: rest) = (.mark '+', rest) :=
  readToken_of_mark (by decide) (by decide) (by decide) (by decide +kernel)

private theorem readToken_minus (rest : List Char) : readToken ('-' :: rest) = (.mark '-', rest) :=
  readToken_of_mark (by decide) (by decide) (by decide) (by decide +kernel)

private theorem isHexMark_of_isDigit {c : Char} (h : c.isDigit = true) : isHexMark c = false := by
  rw [isHexMark, Bool.or_eq_false_iff, decide_eq_false_iff_not, decide_eq_false_iff_not]
  constructor <;>
  · rintro rfl
    exact absurd h (by decide)

private theorem readToken_of_isRunOf {run : List Char} {n : Nat} (h : Text.IsRunOf run n) :
    readToken run = (numberToken n, []) := by
  obtain ⟨c, cs, rfl⟩ := List.exists_cons_of_ne_nil h.ne_nil
  obtain ⟨hc, hcs⟩ := List.forall_mem_cons.1 h.digits
  have hhex : cs.head?.any isHexMark = false := by
    cases hhead : cs.head? with
    | none => rfl
    | some d => exact isHexMark_of_isDigit (hcs d (List.mem_of_head? hhead))
  have htake : cs.takeWhile Char.isDigit = cs := List.takeWhile_eq_self_iff.2 hcs
  have hdrop : cs.dropWhile Char.isDigit = [] := List.dropWhile_eq_nil_iff.2 hcs
  rw [readToken, List.dropWhile_cons, isBlank_of_isDigit hc]
  simp only [Bool.false_eq_true, if_false, tokenFrom, hhex, Bool.and_false, hc, if_true, htake,
    hdrop, h.value]

/-! ### Expressions -/

namespace Reader

variable {cs rest : List Char}

private theorem run_bind_of_eq_ok {α β : Type} {step : Reader α} {next : α → Reader β} {a : α}
    (h : step.run cs = .ok (a, rest)) : (step >>= next).run cs = (next a).run rest := by
  rw [StateT.run_bind, h]
  rfl

private theorem run_token {found : Token} (h : readToken cs = (found, rest)) :
    token.run cs = .ok (found, rest) :=
  congrArg Except.ok h

private theorem run_tokenOr {fault : Fault} {found : Token} (h : readToken cs = (found, rest))
    (hne : found ≠ .ending) : (tokenOr fault).run cs = .ok (found, rest) := by
  rw [tokenOr, run_bind_of_eq_ok (run_token h)]
  cases found with
  | ending => exact absurd rfl hne
  | _ => rfl

private theorem run_expression_of_mark {c : Char} (h : readToken cs = (.mark c, rest))
    (hne : c ≠ '-') : expression.run cs = .error (.noDate (.mark c)) := by
  have hsigned : signedToken.run cs = .ok ((false, .mark c), rest) := by
    rw [signedToken, run_bind_of_eq_ok (run_tokenOr h (by simp))]
    split
    · next heq => exact absurd (Token.mark.inj heq) hne
    · rfl
  rw [expression, StateT.run_bind, draft, run_bind_of_eq_ok hsigned]
  rfl

private theorem run_expression_of_minus {behindSign : List Char} {n : Nat}
    (hsign : readToken cs = (.mark '-', behindSign))
    (hnumber : readToken behindSign = (.number n, [])) (hlt : n < Text.limit32) :
    expression.run cs = .ok (⟨some (.exact (signed32 n) 1 1), none⟩, []) := by
  have hsigned : signedToken.run cs = .ok ((true, .number n), []) := by
    rw [signedToken, run_bind_of_eq_ok (run_tokenOr hsign (by simp))]
    exact (run_bind_of_eq_ok (run_tokenOr hnumber (by simp))).trans rfl
  have hdraft : draft.run cs = .ok (⟨some (.exact (signed32 n) 1 1), none⟩, []) := by
    rw [draft, run_bind_of_eq_ok hsigned]
    change (dayFrom .here true (.number n)).run [] = _
    rw [dayFrom, numberOf, if_pos hlt]
    rfl
  rw [expression, run_bind_of_eq_ok hdraft]
  rfl

end Reader

/-- No expression starts with a plus sign. -/
theorem ofChars_plus (rest : List Char) : ofChars ('+' :: rest) = .error (.noDate (.mark '+')) := by
  rw [ofChars, List.takeWhile_cons_of_pos (by decide),
    Reader.run_expression_of_mark (readToken_plus _) (by decide)]
  rfl

/-- A number behind a minus sign is a year, of which the first day is meant, as without a sign. -/
theorem ofChars_minus {run : List Char} {n : Nat} (h : Text.IsRunOf run n)
    (hlt : n < Text.limit32) :
    ofChars ('-' :: run) = .ok ⟨some (.exact (signed32 n) 1 1), none⟩ := by
  have hkept : ('-' :: run).takeWhile (fun c ↦ decide (c ≠ '\x00')) = '-' :: run := by
    rw [List.takeWhile_eq_self_iff, List.forall_mem_cons]
    refine ⟨by decide, fun c hc ↦ decide_eq_true ?_⟩
    rintro rfl
    exact absurd (h.digits _ hc) (by decide)
  have hnumber : numberToken n = .number n := by
    unfold Text.limit32 at hlt
    exact if_pos ⟨by omega, by omega⟩
  have hread := readToken_of_isRunOf h
  rw [hnumber] at hread
  rw [ofChars, hkept, Reader.run_expression_of_minus (readToken_minus run) hread hlt]
  rfl

/-! ### Texts of days -/

private theorem dateOf_chars_of_lt {date : Date} (h : 9999 < date.year) (today : Date) :
    dateOf today date.chars = .error (.noDate (.mark '+')) := by
  have hyear : yearText date.year = '+' :: Text.zeroPadded 4 date.year.natAbs := by
    rw [yearText, if_neg (by omega), if_neg (by omega)]
  rw [dateOf, Date.chars, hyear, List.cons_append, List.cons_append, ofChars_plus]
  rfl

private theorem year_of_resolve {today date : Date} {year : Int}
    (h : resolve today ⟨some (.exact year 1 1), none⟩ = .ok date) : date.year = year := by
  cases hfirst : Date.ofCivil? year 1 1 with
  | none =>
    simp [resolve, Day.resolve, hfirst, orBadDate] at h
  | some first =>
    simp only [resolve, Day.resolve, hfirst, Option.bind_some, dateAt?, orBadDate,
      Except.ok.injEq] at h
    exact h ▸ (Date.ofCivil?_eq_some_iff.1 hfirst).1

private theorem exists_isRunOf_of_neg {date : Date} (h : date.year < 0) :
    ∃ run, date.chars = '-' :: run ∧
      Text.IsRunOf run (10000 * date.year.natAbs + 100 * date.month + date.day) := by
  have hyear : yearText date.year = '-' :: Text.zeroPadded 4 date.year.natAbs := by
    rw [yearText, if_neg (by omega), if_pos h]
  refine ⟨_, by rw [Date.chars, hyear, List.append_assoc, List.cons_append], ?_, ?_,
    date.ofDigitChars_append_month_day _⟩
  · exact List.append_ne_nil_of_left_ne_nil (Text.zeroPadded_ne_nil 4 _) _
  · intro c hc
    rw [List.mem_append, List.mem_append] at hc
    rcases hc with hc | hc | hc <;>
      exact List.all_eq_true.1 (Text.all_isDigit_zeroPadded _ _) c hc

private theorem signed32_cases {n : Nat} (h : n < 4294967296) :
    signed32 n = n ∨ signed32 n = n - 4294967296 := by
  rw [signed32, Text.limit32, Int.bmod_def]
  split <;> omega

private theorem dateOf_chars_ne_of_neg {date : Date} (h : date.year < 0) (today : Date) :
    dateOf today date.chars ≠ .ok date := by
  obtain ⟨run, hchars, hrun⟩ := exists_isRunOf_of_neg h
  have hfirst : -262143 ≤ date.year := date.year_mem.1
  have hmonth := date.month_mem
  have hday := date.day_lt
  have hlt : 10000 * date.year.natAbs + 100 * date.month + date.day < 4294967296 := by omega
  intro hread
  rw [dateOf, hchars, ofChars_minus hrun hlt, Except.bind] at hread
  have hyear := year_of_resolve hread
  -- The digits stand for a year past the calendar, or with the sign of 32 bits for one before it.
  rcases signed32_cases hlt with hsigned | hsigned
  · omega
  · omega

/-- The text of a day whose year does not fit four digits is not read as that day. -/
theorem dateOf_chars_ne {date : Date} (h : ¬date.HasFourDigitYear) (today : Date) :
    dateOf today date.chars ≠ .ok date := by
  unfold Date.HasFourDigitYear at h
  by_cases hneg : date.year < 0
  · exact dateOf_chars_ne_of_neg hneg today
  · rw [dateOf_chars_of_lt (by omega)]
    simp

end Agenda.DateExpression
