import Mathlib.Data.List.Forall2
import Mathlib.Data.List.TakeWhile
import Agenda.Text.Like

/-!
# What a pattern matches

A text matches a pattern if it can be cut into one run for each character of the pattern, each run
of the kind that the character stands for (`matchesWhole_eq_true_iff`). A term between two `%` is
like the texts some part of which matches the term (`isLike_term_iff`).
-/

namespace Agenda.Text

/-! ### Matching without a search -/

/-- The runs of characters that a character of a pattern stands for. -/
inductive StandsFor : Char → List Char → Prop
  /-- `%` stands for any run. -/
  | anyRun (run : List Char) : StandsFor '%' run
  /-- `_` stands for any one character. -/
  | anyOne (c : Char) : StandsFor '_' [c]
  /-- Any other character stands for those that are compared as equal to it. -/
  | same {p c : Char} (hrun : p ≠ '%') (hone : p ≠ '_') (hfold : fold p = fold c) : StandsFor p [c]

/-- The text can be cut into one run for each character of the pattern. -/
def Matches (pattern text : List Char) : Prop :=
  ∃ runs, List.Forall₂ StandsFor pattern runs ∧ text = runs.flatten

variable {p c : Char} {pattern term text : List Char}

/-- Only the empty text matches the empty pattern. -/
theorem matches_nil : Matches [] text ↔ text = [] := by
  constructor
  · rintro ⟨runs, hruns, rfl⟩
    rw [List.forall₂_nil_left_iff.1 hruns]
    rfl
  · rintro rfl
    exact ⟨[], .nil, rfl⟩

/-- The first character of a pattern takes a run from the front of the text. -/
theorem matches_cons :
    Matches (p :: pattern) text ↔
      ∃ run rest, text = run ++ rest ∧ StandsFor p run ∧ Matches pattern rest := by
  constructor
  · rintro ⟨runs, hruns, rfl⟩
    obtain ⟨run, others, hrun, hothers, rfl⟩ := List.forall₂_cons_left_iff.1 hruns
    exact ⟨run, others.flatten, List.flatten_cons, hrun, others, hothers, rfl⟩
  · rintro ⟨run, _, rfl, hrun, others, hothers, rfl⟩
    exact ⟨run :: others, .cons hrun hothers, List.flatten_cons.symm⟩

private theorem matches_append {first second : List Char} :
    Matches (first ++ second) text ↔
      ∃ front rest, text = front ++ rest ∧ Matches first front ∧ Matches second rest := by
  induction first generalizing text with
  | nil =>
    constructor
    · intro h
      exact ⟨[], text, rfl, matches_nil.2 rfl, h⟩
    · rintro ⟨front, rest, rfl, hfront, hrest⟩
      rw [matches_nil.1 hfront]
      exact hrest
  | cons p first ih =>
    rw [List.cons_append, matches_cons]
    constructor
    · rintro ⟨run, _, rfl, hrun, h⟩
      obtain ⟨front, rest, rfl, hfront, hrest⟩ := ih.1 h
      exact ⟨run ++ front, rest, (List.append_assoc run front rest).symm,
        matches_cons.2 ⟨run, front, rfl, hrun, hfront⟩, hrest⟩
    · rintro ⟨_, rest, rfl, hfront, hrest⟩
      obtain ⟨run, front, rfl, hrun, h⟩ := matches_cons.1 hfront
      exact ⟨run, front ++ rest, List.append_assoc run front rest, hrun,
        ih.2 ⟨front, rest, rfl, h, hrest⟩⟩

private theorem matches_anyRun_cons :
    Matches ('%' :: pattern) text ↔
      ∃ skipped rest, text = skipped ++ rest ∧ Matches pattern rest := by
  rw [matches_cons]
  constructor
  · rintro ⟨run, rest, htext, _, hrest⟩
    exact ⟨run, rest, htext, hrest⟩
  · rintro ⟨run, rest, htext, hrest⟩
    exact ⟨run, rest, htext, .anyRun run, hrest⟩

private theorem StandsFor.length_eq_one {run : List Char} (h : StandsFor p run) (hrun : p ≠ '%') :
    run.length = 1 := by
  cases h with
  | anyRun => exact absurd rfl hrun
  | anyOne => rfl
  | same => rfl

/-- No other character matches the empty text. -/
theorem not_matches_cons_nil (hrun : p ≠ '%') : ¬Matches (p :: pattern) [] := by
  intro h
  obtain ⟨run, rest, hsplit, hstands, _⟩ := matches_cons.1 h
  have hlen := hstands.length_eq_one hrun
  rw [(List.append_eq_nil_iff.1 hsplit.symm).1] at hlen
  exact absurd hlen (by decide)

/-- Any other character takes the first character of a text. -/
theorem matches_cons_cons (hrun : p ≠ '%') :
    Matches (p :: pattern) (c :: text) ↔ StandsFor p [c] ∧ Matches pattern text := by
  rw [matches_cons]
  constructor
  · rintro ⟨run, rest, hsplit, hstands, hrest⟩
    obtain ⟨d, rfl⟩ := List.length_eq_one_iff.1 (hstands.length_eq_one hrun)
    rw [List.singleton_append, List.cons_eq_cons] at hsplit
    obtain ⟨rfl, rfl⟩ := hsplit
    exact ⟨hstands, hrest⟩
  · rintro ⟨hstands, hrest⟩
    exact ⟨[c], text, rfl, hstands, hrest⟩

/-- A character that is no wildcard stands for what is compared as equal to it. -/
theorem standsFor_singleton_iff (hrun : p ≠ '%') (hone : p ≠ '_') :
    StandsFor p [c] ↔ fold p = fold c := by
  constructor
  · intro h
    cases h with
    | anyRun => exact absurd rfl hrun
    | anyOne => exact absurd rfl hone
    | same _ _ hfold => exact hfold
  · exact .same hrun hone

private theorem anyTail_eq_true_iff {test : List Char → Bool} :
    anyTail test text = true ↔ ∃ skipped rest, text = skipped ++ rest ∧ test rest = true := by
  induction text with
  | nil =>
    constructor
    · intro h
      exact ⟨[], [], rfl, h⟩
    · rintro ⟨skipped, rest, hsplit, htest⟩
      rw [(List.append_eq_nil_iff.1 hsplit.symm).2] at htest
      exact htest
  | cons c cs ih =>
    rw [anyTail, Bool.or_eq_true, ih]
    constructor
    · rintro (htest | ⟨skipped, rest, rfl, htest⟩)
      · exact ⟨[], c :: cs, rfl, htest⟩
      · exact ⟨c :: skipped, rest, rfl, htest⟩
    · rintro ⟨skipped, rest, hsplit, htest⟩
      cases skipped with
      | nil =>
        apply Or.inl
        rw [hsplit]
        exact htest
      | cons d skipped =>
        rw [List.cons_append, List.cons_eq_cons] at hsplit
        exact .inr ⟨skipped, rest, hsplit.2, htest⟩

/-- The comparison of a whole text with a pattern decides whether it matches. -/
theorem matchesWhole_eq_true_iff : matchesWhole pattern text = true ↔ Matches pattern text := by
  induction pattern generalizing text with
  | nil => rw [matchesWhole, List.isEmpty_iff, matches_nil]
  | cons p pattern ih =>
    by_cases hrun : p = '%'
    · subst hrun
      rw [matchesWhole, anyTail_eq_true_iff, matches_anyRun_cons]
      simp only [ih]
    · cases text with
      | nil =>
        apply iff_of_false
        · simp [matchesWhole]
        · exact not_matches_cons_nil hrun
      | cons c text =>
        rw [matches_cons_cons hrun]
        by_cases hone : p = '_'
        · subst hone
          rw [matchesWhole, ih]
          exact (and_iff_right (.anyOne c)).symm
        · rw [matchesWhole, Bool.and_eq_true, beq_iff_eq, ih, standsFor_singleton_iff hrun hone]
          all_goals assumption

/-! ### Terms between two `%` -/

/-- The most bytes of a term for which a pattern has room between two `%`. -/
def longestTerm : Nat := 49998

/-- A repeated character has its bytes that often. -/
theorem byteCount_replicate (n : Nat) (c : Char) :
    byteCount (List.replicate n c) = n * c.utf8Size := by
  unfold byteCount
  induction n with
  | zero => rw [Nat.zero_mul, List.replicate_zero, String.ofList_nil, String.utf8ByteSize_empty]
  | succ n ih =>
    rw [List.replicate_succ, String.ofList_cons, String.utf8ByteSize_append, ih,
      String.utf8ByteSize_singleton, Nat.succ_mul, Nat.add_comm]

/-- The pattern around a term is too long exactly if the term is. -/
theorem longestPattern_lt_iff :
    longestPattern < byteCount ('%' :: term ++ ['%']) ↔ longestTerm < byteCount term := by
  have hcount : byteCount ('%' :: term ++ ['%']) = byteCount term + 2 := by
    unfold byteCount
    rw [List.cons_append, String.ofList_cons, String.ofList_append, String.utf8ByteSize_append,
      String.utf8ByteSize_append]
    exact Nat.add_comm _ _
  rw [hcount]
  unfold longestPattern longestTerm
  omega

/-- A text without NUL takes part as a whole. -/
theorem beforeNul_eq_self {cs : List Char} (h : '\x00' ∉ cs) : beforeNul cs = cs := by
  rw [beforeNul, List.takeWhile_eq_self_iff]
  intro c hc
  rw [decide_eq_true_eq]
  rintro rfl
  exact h hc

private theorem beforeNul_append_of_mem {cs : List Char} (h : '\x00' ∈ cs) (ds : List Char) :
    beforeNul (cs ++ ds) = beforeNul cs := by
  rw [beforeNul, List.takeWhile_append, if_neg]
  · rfl
  · intro hlen
    have hwhole := (List.takeWhile_prefix (fun c ↦ decide (c ≠ '\x00'))).eq_of_length hlen
    exact absurd (List.takeWhile_eq_self_iff.1 hwhole _ h) (by decide)

/-- NUL itself takes no part. -/
theorem nul_notMem_beforeNul (cs : List Char) : '\x00' ∉ beforeNul cs := by
  intro h
  exact absurd (List.mem_takeWhile_imp h) (by decide)

/-- Some part of the text matches the term. What stands behind a NUL counts on neither side, and a
term that has one matches a final part only, since the `%` behind it does not count either. -/
def Finds (term text : List Char) : Prop :=
  ∃ before part after, beforeNul text = before ++ part ++ after ∧
    Matches (beforeNul term) part ∧ ('\x00' ∈ term → after = [])

/-- A term between two `%` is looked for in a text. -/
theorem isLike_term_iff : isLike ('%' :: term ++ ['%']) text = true ↔ Finds term text := by
  have hpattern : beforeNul ('%' :: term ++ ['%']) = '%' :: beforeNul (term ++ ['%']) := rfl
  rw [isLike, matchesWhole_eq_true_iff, hpattern, matches_anyRun_cons]
  by_cases hnul : '\x00' ∈ term
  · -- A NUL in the term takes away the `%` behind it.
    rw [beforeNul_append_of_mem hnul]
    constructor
    · rintro ⟨before, part, hsplit, hpart⟩
      refine ⟨before, part, [], ?_, hpart, fun _ ↦ rfl⟩
      rw [List.append_nil, hsplit]
    · rintro ⟨before, part, after, hsplit, hpart, hafter⟩
      rw [hafter hnul, List.append_nil] at hsplit
      exact ⟨before, part, hsplit, hpart⟩
  · have hterm : '\x00' ∉ term ++ ['%'] := by
      rw [List.mem_append, not_or]
      exact ⟨hnul, by decide⟩
    unfold Finds
    rw [beforeNul_eq_self hterm, beforeNul_eq_self hnul]
    constructor
    · rintro ⟨before, rest, hsplit, hrest⟩
      obtain ⟨part, after, rfl, hpart, _⟩ := matches_append.1 hrest
      exact ⟨before, part, after, by rw [hsplit, List.append_assoc], hpart, fun h ↦ absurd h hnul⟩
    · rintro ⟨before, part, after, hsplit, hpart, _⟩
      have hend : Matches ['%'] after :=
        matches_anyRun_cons.2 ⟨after, [], (List.append_nil after).symm, matches_nil.2 rfl⟩
      exact ⟨before, part ++ after, by rw [hsplit, List.append_assoc],
        matches_append.2 ⟨part, after, rfl, hpart, hend⟩⟩

end Agenda.Text
