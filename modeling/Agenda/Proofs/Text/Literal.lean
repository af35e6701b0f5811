import Mathlib.Data.List.Infix
import Agenda.Proofs.Text.Like
import Agenda.Text.Blank

/-!
# Terms that stand for themselves

A term is found in exactly the texts that contain it, ASCII letters compared without case, if none
of its characters is special to a pattern (`finds_iff_contains`). Every other term is found in some
text that does not contain it (`exists_finds_not_contains`).
-/

namespace Agenda.Text

variable {p c : Char} {term text : List Char}

/-! ### Containing a term -/

/-- The text contains the term, ASCII letters compared without regard to case. -/
def Contains (term text : List Char) : Prop :=
  term.map Char.toLower <:+: text.map Char.toLower

instance (term text : List Char) : Decidable (Contains term text) :=
  List.decidableInfix _ _

/-- A text contains a term if some part of it is the term but for case. -/
theorem contains_iff :
    Contains term text ↔ ∃ before part after, text = before ++ part ++ after ∧
      part.map Char.toLower = term.map Char.toLower := by
  constructor
  · rintro ⟨lowBefore, lowAfter, hlow⟩
    obtain ⟨front, after, rfl, hfront, _⟩ := List.map_eq_append_iff.1 hlow.symm
    obtain ⟨before, part, rfl, _, hpart⟩ := List.map_eq_append_iff.1 hfront
    exact ⟨before, part, after, rfl, hpart⟩
  · rintro ⟨before, part, after, rfl, hpart⟩
    refine ⟨before.map Char.toLower, after.map Char.toLower, ?_⟩
    rw [← hpart, List.map_append, List.map_append]

/-- The empty text contains the empty term only. -/
theorem eq_nil_of_contains_nil (h : Contains term []) : term = [] :=
  List.map_eq_nil_iff.1 (List.infix_nil.1 h)

/-- The characters of a term that do not stand for themselves alone: the wildcards, the end of the
term, and the three that are compared as equal. -/
def specialChars : List Char := ['%', '_', '\x00', '\ufffd', '\ufffe', '\uffff']

/-- Every character of the term stands for itself. -/
def IsLiteral (term : List Char) : Prop := ∀ c ∈ term, c ∉ specialChars

instance (term : List Char) : Decidable (IsLiteral term) :=
  List.decidableBAll (· ∉ specialChars) term

private theorem toLower_eq_iff {c d : Char} (h : d.isAlpha = false) : c.toLower = d ↔ c = d := by
  obtain ⟨hupper, hlower⟩ := Bool.or_eq_false_iff.1 h
  unfold Char.toLower
  split
  · next hcapital =>
    apply iff_of_false
    · rintro rfl
      -- The code of a small letter is 32 above that of the capital.
      rcases Bool.and_eq_false_iff.1 hlower with hbelow | habove
      · have hbelow := of_decide_eq_false hbelow
        simp [UInt32.le_iff_toNat_le] at hcapital hbelow
        omega
      · have habove := of_decide_eq_false habove
        simp [UInt32.le_iff_toNat_le] at hcapital habove
        omega
    · rintro rfl
      exact of_decide_eq_false hupper hcapital
  · rfl

/-- A character that stands for itself is compared as equal to both cases of it and nothing else. -/
theorem fold_eq_fold_iff (h : p ∉ specialChars) :
    fold p = fold c ↔ c.toLower = p.toLower := by
  simp only [specialChars, List.mem_cons, List.not_mem_nil, or_false, not_or] at h
  obtain ⟨_, _, _, hreplacement, hfffe, hffff⟩ := h
  have hp : fold p = p.toLower := if_neg (by simp [hfffe, hffff])
  rw [hp]
  by_cases hc : c = '\ufffe' ∨ c = '\uffff'
  · have hfold : fold c = '\ufffd' := if_pos hc
    rw [hfold, toLower_eq_iff (by decide)]
    apply iff_of_false hreplacement
    rcases hc with rfl | rfl
    · exact fun heq ↦ hfffe ((toLower_eq_iff (by decide)).1 heq.symm)
    · exact fun heq ↦ hffff ((toLower_eq_iff (by decide)).1 heq.symm)
  · have hfold : fold c = c.toLower := if_neg hc
    rw [hfold, eq_comm]

private theorem matches_iff_of_isLiteral (h : IsLiteral term) :
    Matches term text ↔ text.map Char.toLower = term.map Char.toLower := by
  induction term generalizing text with
  | nil => rw [matches_nil, List.map_nil, List.map_eq_nil_iff]
  | cons p term ih =>
    obtain ⟨hp, hterm⟩ := List.forall_mem_cons.1 h
    have hrun : p ≠ '%' := by
      rintro rfl
      exact hp (by decide)
    have hone : p ≠ '_' := by
      rintro rfl
      exact hp (by decide)
    cases text with
    | nil => exact iff_of_false (not_matches_cons_nil hrun) (by simp)
    | cons c text =>
      rw [matches_cons_cons hrun, standsFor_singleton_iff hrun hone, fold_eq_fold_iff hp, ih hterm,
        List.map_cons, List.map_cons, List.cons_eq_cons]

/-- A term that stands for itself has no NUL. -/
theorem IsLiteral.nul_notMem (h : IsLiteral term) : '\x00' ∉ term :=
  fun hnul ↦ h _ hnul (by decide)

/-- A term that stands for itself is found where it is contained. -/
theorem finds_iff_contains (h : IsLiteral term) :
    Finds term text ↔ Contains term (beforeNul text) := by
  unfold Finds
  rw [contains_iff, beforeNul_eq_self h.nul_notMem]
  simp only [matches_iff_of_isLiteral h, h.nul_notMem, false_implies, and_true]

/-! ### Terms with special characters -/

/-- What may stand in a text for a character of a term, and is not that character where it is
special. -/
def standIn (c : Char) : Char :=
  if c = '%' ∨ c = '_' then 'x'
  else if c = '\ufffd' then '\ufffe'
  else if c = '\ufffe' ∨ c = '\uffff' then '\ufffd'
  else c

/-- Every character stands for its stand-in. -/
theorem standsFor_standIn (p : Char) : StandsFor p [standIn p] := by
  by_cases hrun : p = '%'
  · subst hrun
    exact .anyRun _
  · by_cases hone : p = '_'
    · subst hone
      exact .anyOne _
    · apply StandsFor.same hrun hone
      unfold standIn
      split
      · next h => exact absurd h (by simp [hrun, hone])
      · split
        · next h =>
          subst h
          decide
        · split
          · next h =>
            rcases h with rfl | rfl
            · decide
            · decide
          · rfl

private theorem matches_map_standIn (pattern : List Char) :
    Matches pattern (pattern.map standIn) := by
  induction pattern with
  | nil => exact matches_nil.2 rfl
  | cons p pattern ih => exact matches_cons.2 ⟨[standIn p], _, rfl, standsFor_standIn p, ih⟩

private theorem standIn_spec (h : p ∈ specialChars) (hnul : p ≠ '\x00') :
    isBlank (standIn p) = false ∧ (standIn p).toLower ≠ p.toLower := by
  simp only [specialChars, List.mem_cons, List.not_mem_nil, or_false] at h
  rcases h with rfl | rfl | rfl | rfl | rfl | rfl
  · decide
  · decide
  · exact absurd rfl hnul
  · decide
  · decide
  · decide

private theorem nul_notMem_map_standIn {cs : List Char} (h : '\x00' ∉ cs) :
    '\x00' ∉ cs.map standIn := by
  intro hmem
  obtain ⟨c, hc, heq⟩ := List.mem_map.1 hmem
  have hnul : c ≠ '\x00' := by
    rintro rfl
    exact h hc
  unfold standIn at heq
  split at heq
  · exact absurd heq (by decide)
  · split at heq
    · exact absurd heq (by decide)
    · split at heq
      · exact absurd heq (by decide)
      · exact hnul heq

private theorem not_contains_of_nul (hterm : '\x00' ∈ term) (htext : '\x00' ∉ text) :
    ¬Contains term text := by
  intro h
  have hmem : '\x00' ∈ text.map Char.toLower := h.subset (List.mem_map.2 ⟨_, hterm, rfl⟩)
  obtain ⟨c, hc, heq⟩ := List.mem_map.1 hmem
  rw [toLower_eq_iff (by decide)] at heq
  exact htext (heq ▸ hc)

private theorem toLower_standIn_of_contains (h : Contains term (term.map standIn)) :
    ∀ c ∈ term, (standIn c).toLower = c.toLower := by
  have heq := h.eq_of_length (by rw [List.length_map, List.length_map, List.length_map])
  rw [List.map_map] at heq
  intro c hc
  exact (List.map_inj_left.1 heq c hc).symm

/-- For a term some character of which is special there is a text without NUL, and not blank, in
which the term is found though the text does not contain it. -/
theorem exists_finds_not_contains (h : ¬IsLiteral term) :
    ∃ text, '\x00' ∉ text ∧ (∃ c ∈ text, isBlank c = false) ∧ Finds term text ∧
      ¬Contains term text := by
  have hmatches := matches_map_standIn (beforeNul term)
  have hplain := nul_notMem_map_standIn (nul_notMem_beforeNul term)
  by_cases hnul : '\x00' ∈ term
  · -- Behind an `x` the part before the NUL is found, though the NUL itself is not there.
    have htext : '\x00' ∉ 'x' :: (beforeNul term).map standIn := by
      rw [List.mem_cons, not_or]
      exact ⟨by decide, hplain⟩
    refine ⟨_, htext, ⟨'x', List.mem_cons_self, by decide⟩, ?_, not_contains_of_nul hnul htext⟩
    refine ⟨['x'], _, [], ?_, hmatches, fun _ ↦ rfl⟩
    rw [beforeNul_eq_self htext, List.append_nil]
    rfl
  · -- A special character has a stand-in that it matches and is not.
    rw [beforeNul_eq_self hnul] at hmatches hplain
    obtain ⟨c, hc, hspecial⟩ : ∃ c ∈ term, c ∈ specialChars := by
      simpa [IsLiteral] using h
    obtain ⟨hblank, hother⟩ := standIn_spec hspecial fun heq ↦ hnul (heq ▸ hc)
    refine ⟨term.map standIn, hplain, ⟨standIn c, List.mem_map_of_mem hc, hblank⟩, ?_, ?_⟩
    · refine ⟨[], term.map standIn, [], ?_, ?_, fun _ ↦ rfl⟩
      · rw [beforeNul_eq_self hplain, List.append_nil]
        rfl
      · rwa [beforeNul_eq_self hnul]
    · intro hcontains
      exact hother (toLower_standIn_of_contains hcontains c hc)

end Agenda.Text
