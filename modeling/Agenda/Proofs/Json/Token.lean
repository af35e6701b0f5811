import Agenda.Proofs.Json.Text

/-!
# Texts of several tokens

A token other than a number is split off as it was written, whatever follows it (`token?_chars`). So
a text that is put together from the texts of such tokens, with spaces anywhere between them, splits
into these tokens (`Spells.tokens?_eq`).
-/

namespace Agenda.Json

/-- Whether a token is a number. -/
def Token.isNumber : Token → Bool
  | number _ => Bool.true
  | _ => Bool.false

variable {token : Token} {tokens : List Token} {cs : List Char}

/-! ### Single tokens -/

private theorem exists_chars_eq_cons (h : token.isNumber = false) :
    ∃ c rest, token.chars = c :: rest ∧ isSpace c = false := by
  cases token
  case number numeral => exact absurd h (by simp [Token.isNumber])
  case string text => cases text <;> exact ⟨_, _, rfl, rfl⟩
  -- The text of every other token is fixed.
  all_goals exact ⟨_, _, rfl, rfl⟩

/-- A token is split off as it was written. -/
theorem token?_chars (h : token.isNumber = false) (rest : List Char) :
    token? (token.chars ++ rest) = some (token, rest) := by
  cases token
  case number numeral => exact absurd h (by simp [Token.isNumber])
  case string text =>
    cases text with
    | some text => exact token?_quoted text rest
    | none => rfl
  all_goals rfl

/-! ### Texts of tokens -/

/-- The text is written from the tokens, with spaces anywhere between them. -/
inductive Spells : List Char → List Token → Prop
  /-- No tokens have no text. -/
  | nil : Spells [] []
  /-- A space in front does not count. -/
  | space {c : Char} {cs : List Char} {tokens : List Token} (hspace : isSpace c = true)
      (h : Spells cs tokens) : Spells (c :: cs) tokens
  /-- A token is written in front. -/
  | token (token : Token) {cs : List Char} {tokens : List Token}
      (hnumber : token.isNumber = false) (h : Spells cs tokens) :
      Spells (token.chars ++ cs) (token :: tokens)

private theorem tokensUpTo?_space {c : Char} (hspace : isSpace c = true) (most : Nat)
    (cs : List Char) : tokensUpTo? most (c :: cs) = tokensUpTo? most cs := by
  have hdrop : (c :: cs).dropWhile isSpace = cs.dropWhile isSpace :=
    List.dropWhile_cons_of_pos hspace
  conv =>
    lhs
    unfold tokensUpTo?
    simp only [hdrop]
  conv =>
    rhs
    unfold tokensUpTo?

namespace Spells

/-- Texts of tokens one after the other are the text of all. -/
theorem append {ds : List Char} {more : List Token} (h : Spells cs tokens)
    (hmore : Spells ds more) : Spells (cs ++ ds) (tokens ++ more) := by
  induction h with
  | nil => exact hmore
  | space hspace _ ih => exact .space hspace ih
  | token token hnumber _ ih =>
    rw [List.append_assoc]
    exact .token token hnumber ih

/-- A single token is its own text. -/
theorem single (token : Token) (hnumber : token.isNumber = false) :
    Spells token.chars [token] := by
  have h : Spells (token.chars ++ []) [token] := .token token hnumber .nil
  rwa [List.append_nil] at h

/-- Spaces alone are a text of no tokens. -/
theorem spaces (h : ∀ c ∈ cs, isSpace c = true) : Spells cs [] := by
  induction cs with
  | nil => exact .nil
  | cons c cs ih =>
    rw [List.forall_mem_cons] at h
    exact .space h.1 (ih h.2)

private theorem length_le (h : Spells cs tokens) : tokens.length ≤ cs.length := by
  induction h with
  | nil => exact Nat.le_refl _
  | space _ _ ih => exact Nat.le_succ_of_le ih
  | token token hnumber _ ih =>
    obtain ⟨c, rest, hchars, _⟩ := exists_chars_eq_cons hnumber
    rw [hchars, List.cons_append, List.length_cons, List.length_cons, List.length_append]
    omega

private theorem tokensUpTo?_eq (h : Spells cs tokens) {most : Nat} (hmost : tokens.length ≤ most) :
    tokensUpTo? most cs = some tokens := by
  induction h generalizing most with
  | nil => exact tokensUpTo?_nil most
  | space hspace _ ih => rw [tokensUpTo?_space hspace, ih hmost]
  | @token token cs tokens hnumber _ ih =>
    rw [List.length_cons] at hmost
    obtain ⟨most, rfl⟩ := Nat.exists_eq_add_of_le' (Nat.le_trans (Nat.le_add_left 1 _) hmost)
    obtain ⟨c, rest, hchars, hspace⟩ := exists_chars_eq_cons hnumber
    have htoken := token?_chars hnumber cs
    rw [hchars, List.cons_append] at htoken ⊢
    rw [tokensUpTo?_cons hspace, htoken]
    change (tokensUpTo? most cs).map (token :: ·) = _
    rw [ih (by omega), Option.map_some]

/-- A text splits into the tokens that it is written from. -/
theorem tokens?_eq (h : Spells cs tokens) : tokens? cs = some tokens := h.tokensUpTo?_eq h.length_le

end Spells

end Agenda.Json
