import Agenda.Json.Value

/-!
# Strings of JSON

A text that is written as a JSON string reads back, whatever characters it has: each written
character is read as one code point (`stringPoints?_escaped`), and code points of characters are no
halves of surrogate pairs (`textOfPoints?_toNat`).
-/

namespace Agenda.Json

/-! ### Characters inside a string -/

/-- The code point `point` in front of what a string holds. -/
def withPoint (point : Nat) : List Nat × List Char → List Nat × List Char
  | (points, rest) => (point :: points, rest)

private theorem hexUnit?_hexDigit :
    ∀ n < 0x20, hexUnit? '0' '0' (Text.hexDigit (n / 16)) (Text.hexDigit n) = some n := by
  decide

private theorem stringPoints?_unit {a b c d : Char} {unit : Nat} (h : hexUnit? a b c d = some unit)
    (rest : List Char) :
    stringPoints? ('\\' :: 'u' :: a :: b :: c :: d :: rest) =
      (stringPoints? rest).map (withPoint unit) := by
  rw [stringPoints?, h]
  cases stringPoints? rest <;> rfl

private theorem stringPoints?_letter {letter c : Char} (hletter : letter ≠ 'u')
    (h : letterEscape? letter = some c) (rest : List Char) :
    stringPoints? ('\\' :: letter :: rest) = (stringPoints? rest).map (withPoint c.toNat) := by
  rw [stringPoints?, h]
  · cases stringPoints? rest <;> rfl
  · exact fun _ _ _ _ _ hu _ ↦ hletter hu

private theorem stringPoints?_cons {c : Char} (hquote : c ≠ '"') (hslash : c ≠ '\\')
    (hcontrol : ¬c.toNat < 0x20) (rest : List Char) :
    stringPoints? (c :: rest) = (stringPoints? rest).map (withPoint c.toNat) := by
  rw [stringPoints?, if_neg (by simp [hslash, hcontrol])]
  · cases stringPoints? rest <;> rfl
  · exact hquote
  · exact fun _ _ _ _ _ hc _ ↦ hslash hc
  · exact fun _ _ hc _ ↦ hslash hc

/-- A written character is read as its code point. -/
theorem stringPoints?_escaped (c : Char) (rest : List Char) :
    stringPoints? (escaped c ++ rest) = (stringPoints? rest).map (withPoint c.toNat) := by
  unfold escaped
  split
  case h_8 hquote hslash _ _ _ _ _ =>
    split
    · next hcontrol => exact stringPoints?_unit (hexUnit?_hexDigit c.toNat hcontrol) rest
    · next hcontrol => exact stringPoints?_cons hquote hslash hcontrol rest
  -- What is left are the characters that have a letter of their own.
  all_goals exact stringPoints?_letter (by decide) rfl rest

private theorem stringPoints?_flatMap_escaped (cs rest : List Char) :
    stringPoints? (cs.flatMap escaped ++ '"' :: rest) = some (cs.map Char.toNat, rest) := by
  induction cs with
  | nil => rw [List.flatMap_nil, List.nil_append, stringPoints?, List.map_nil]
  | cons c cs ih =>
    rw [List.flatMap_cons, List.append_assoc, stringPoints?_escaped, ih]
    rfl

/-! ### Code points -/

private theorem not_isSurrogate_toNat (c : Char) :
    isHighSurrogate c.toNat = false ∧ isLowSurrogate c.toNat = false := by
  have hvalid : c.toNat < 0xd800 ∨ 0xdfff < c.toNat ∧ c.toNat < 0x110000 := c.valid
  unfold isHighSurrogate isLowSurrogate
  simp only [Bool.and_eq_false_iff, decide_eq_false_iff_not]
  omega

/-- The code points of a text are read as its characters. -/
theorem textOfPoints?_toNat (cs : List Char) : textOfPoints? (cs.map Char.toNat) = some cs := by
  induction cs with
  | nil => rw [List.map_nil, textOfPoints?]
  | cons c cs ih =>
    obtain ⟨hhigh, hlow⟩ := not_isSurrogate_toNat c
    cases cs with
    | nil => simp [textOfPoints?, hhigh, hlow, Char.ofNat_toNat]
    | cons d cs =>
      rw [List.map_cons] at ih
      rw [List.map_cons, List.map_cons, textOfPoints?, hhigh, hlow, ih]
      simp [Char.ofNat_toNat]

/-! ### Whole strings -/

/-- A written string is split off as one token. -/
theorem token?_quoted (text : String) (rest : List Char) :
    token? (quoted text ++ rest) = some (.string (some text), rest) := by
  rw [quoted, List.cons_append, List.cons_append, List.append_assoc, List.singleton_append, token?,
    stringPoints?_flatMap_escaped]
  simp only [textOfPoints?_toNat, Option.map_some, String.ofList_toList, bind, Option.bind, pure]

/-- There is no token in nothing. -/
theorem tokensUpTo?_nil (most : Nat) : tokensUpTo? most [] = some [] := by
  cases most <;> rfl

/-- Where no space stands, a token is split off. -/
theorem tokensUpTo?_cons {c : Char} (hspace : isSpace c = false) (most : Nat) (cs : List Char) :
    tokensUpTo? (most + 1) (c :: cs) =
      (token? (c :: cs)).bind fun (token, rest) ↦ (tokensUpTo? most rest).map (token :: ·) := by
  have hdrop : (c :: cs).dropWhile isSpace = c :: cs :=
    List.dropWhile_cons_of_neg (by simp [hspace])
  conv =>
    lhs
    unfold tokensUpTo?
    simp only [hdrop]
  simp only [Option.map_eq_bind]
  rfl

/-- A written string is one token. -/
theorem tokens?_quoted (text : String) : tokens? (quoted text) = some [.string (some text)] := by
  have htoken := token?_quoted text []
  rw [List.append_nil] at htoken
  rw [tokens?, quoted, List.cons_append, List.length_cons, tokensUpTo?_cons rfl, ← List.cons_append,
    ← quoted, htoken]
  simp only [Option.bind_some, tokensUpTo?_nil, Option.map_some]

/-- A text that is written as a JSON string reads back. -/
theorem ofText?_compactText_ofText (text : String) :
    ofText? (ofText text).compactText = some (ofText text) := by
  have htokens := tokens?_quoted text
  rw [ofText?, compactText, String.toList_ofList, ofChars?]
  change (tokens? (quoted text)).bind _ = _
  rw [htokens]
  rfl

end Agenda.Json
