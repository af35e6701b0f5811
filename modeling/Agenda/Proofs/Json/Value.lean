import Agenda.Proofs.Json.Token

/-!
# Values and their texts

The compact and the indented text of a value are two layouts of the same tokens (`spells_compact`,
`spells_indented`), and these tokens are read as that value and no more (`valueOf?_tokens`). So a
value that has no numbers is read back from both of its texts (`ofText?_compactText`,
`ofText?_indentedText`).
-/

namespace Agenda.Json

/-! ### The tokens of a value -/

mutual

/-- The tokens of a value. -/
def tokens : Json → List Token
  | null => [.null]
  | bool true => [.true]
  | bool false => [.false]
  | number numeral => [.number numeral]
  | string text => [.string text]
  | array [] => [.openBracket, .closeBracket]
  | array (item :: items) => .openBracket :: tokens item ++ itemsTokens items
  | object [] => [.openBrace, .closeBrace]
  | object ((name, value) :: fields) =>
    .openBrace :: .string name :: .colon :: tokens value ++ fieldsTokens fields

/-- The tokens of the items of an array after the first, and of its end. -/
def itemsTokens : List Json → List Token
  | [] => [.closeBracket]
  | item :: items => .comma :: tokens item ++ itemsTokens items

/-- The tokens of the fields of an object after the first, and of its end. -/
def fieldsTokens : List (Option String × Json) → List Token
  | [] => [.closeBrace]
  | (name, value) :: fields =>
    .comma :: .string name :: .colon :: tokens value ++ fieldsTokens fields

end

/-- The value has no number. -/
def HasNoNumber (json : Json) : Prop := ∀ token ∈ json.tokens, token.isNumber = false

private theorem isNumber_of_mem_itemsTokens {items : List Json}
    (h : ∀ item ∈ items, item.HasNoNumber) :
    ∀ token ∈ itemsTokens items, token.isNumber = false := by
  induction items with
  | nil => exact List.forall_mem_singleton.2 rfl
  | cons item items ih =>
    rw [List.forall_mem_cons] at h
    rw [itemsTokens, List.forall_mem_append, List.forall_mem_cons]
    exact ⟨⟨rfl, h.1⟩, ih h.2⟩

/-- An array of values without numbers has none. -/
theorem hasNoNumber_array {items : List Json} (h : ∀ item ∈ items, item.HasNoNumber) :
    (array items).HasNoNumber := by
  cases items with
  | nil => simp [HasNoNumber, tokens, Token.isNumber]
  | cons item items =>
    rw [List.forall_mem_cons] at h
    rw [HasNoNumber, tokens, List.forall_mem_append, List.forall_mem_cons]
    exact ⟨⟨rfl, h.1⟩, isNumber_of_mem_itemsTokens h.2⟩

private theorem isNumber_of_mem_fieldsTokens {fields : List (Option String × Json)}
    (h : ∀ field ∈ fields, field.2.HasNoNumber) :
    ∀ token ∈ fieldsTokens fields, token.isNumber = false := by
  induction fields with
  | nil => exact List.forall_mem_singleton.2 rfl
  | cons field fields ih =>
    obtain ⟨name, value⟩ := field
    rw [List.forall_mem_cons] at h
    rw [fieldsTokens, List.forall_mem_append, List.forall_mem_cons, List.forall_mem_cons,
      List.forall_mem_cons]
    exact ⟨⟨rfl, rfl, rfl, h.1⟩, ih h.2⟩

/-- An object of values without numbers has none. -/
theorem hasNoNumber_object {fields : List (Option String × Json)}
    (h : ∀ field ∈ fields, field.2.HasNoNumber) : (object fields).HasNoNumber := by
  cases fields with
  | nil => simp [HasNoNumber, tokens, Token.isNumber]
  | cons field fields =>
    obtain ⟨name, value⟩ := field
    rw [List.forall_mem_cons] at h
    rw [HasNoNumber, tokens, List.forall_mem_append, List.forall_mem_cons, List.forall_mem_cons,
      List.forall_mem_cons]
    exact ⟨⟨rfl, rfl, rfl, h.1⟩, isNumber_of_mem_fieldsTokens h.2⟩

/-- A string is not a number. -/
theorem hasNoNumber_ofText (text : String) : (ofText text).HasNoNumber :=
  List.forall_mem_singleton.2 rfl

/-! ### Layouts -/

private theorem Spells.field {cs : List Char} {tokens : List Token} (h : Spells cs tokens)
    (name : Option String) :
    Spells (stringChars name ++ ':' :: cs) (.string name :: .colon :: tokens) :=
  .token (.string name) rfl (.token .colon rfl h)

mutual

/-- The compact text of a value is written from its tokens. -/
theorem spells_compact : (json : Json) → HasNoNumber json → Spells (compact json) (tokens json)
  | null, _ => .single .null rfl
  | bool true, _ => .single .true rfl
  | bool false, _ => .single .false rfl
  | number numeral, h => absurd (h _ List.mem_cons_self) (by simp [Token.isNumber])
  | string text, _ => .single (.string text) rfl
  | array [], _ => .token .openBracket rfl (.single .closeBracket rfl)
  | array (item :: items), h => by
    rw [HasNoNumber, tokens, List.forall_mem_append, List.forall_mem_cons] at h
    have hitem := spells_compact item h.1.2
    exact .append (.token .openBracket rfl hitem) (spells_compactItems items h.2)
  | object [], _ => .token .openBrace rfl (.single .closeBrace rfl)
  | object ((name, value) :: fields), h => by
    rw [HasNoNumber, tokens, List.forall_mem_append] at h
    have hvalue := spells_compact value fun token ht ↦ h.1 token (by simp [ht])
    exact .append (.token .openBrace rfl (hvalue.field name)) (spells_compactFields fields h.2)

/-- The compact text of the items of an array after the first is written from their tokens. -/
theorem spells_compactItems : (items : List Json) →
    (∀ token ∈ itemsTokens items, token.isNumber = false) →
    Spells (compactItems items) (itemsTokens items)
  | [], _ => .single .closeBracket rfl
  | item :: items, h => by
    rw [itemsTokens, List.forall_mem_append, List.forall_mem_cons] at h
    have hitem := spells_compact item h.1.2
    exact .append (.token .comma rfl hitem) (spells_compactItems items h.2)

/-- The compact text of the fields of an object after the first is written from their tokens. -/
theorem spells_compactFields : (fields : List (Option String × Json)) →
    (∀ token ∈ fieldsTokens fields, token.isNumber = false) →
    Spells (compactFields fields) (fieldsTokens fields)
  | [], _ => .single .closeBrace rfl
  | (name, value) :: fields, h => by
    rw [fieldsTokens, List.forall_mem_append] at h
    have hvalue := spells_compact value fun token ht ↦ h.1 token (by simp [ht])
    exact .append (.token .comma rfl (hvalue.field name)) (spells_compactFields fields h.2)

end

private theorem spells_newLine (depth : Nat) : Spells (newLine depth) [] := by
  refine .space rfl (.spaces fun c hc ↦ ?_)
  rw [List.eq_of_mem_replicate hc]
  rfl

private theorem Spells.onNewLine {cs : List Char} {tokens : List Token} (h : Spells cs tokens)
    (depth : Nat) : Spells (newLine depth ++ cs) tokens :=
  (spells_newLine depth).append h

private theorem Spells.fieldOnNewLine {cs : List Char} {tokens : List Token} (h : Spells cs tokens)
    (name : Option String) (depth : Nat) :
    Spells (newLine depth ++ stringChars name ++ ':' :: ' ' :: cs)
      (.string name :: .colon :: tokens) := by
  have hvalue : Spells (' ' :: cs) tokens := .space rfl h
  rw [List.append_assoc]
  exact (hvalue.field name).onNewLine depth

mutual

/-- The indented text of a value is written from its tokens. -/
theorem spells_indented (depth : Nat) : (json : Json) → HasNoNumber json →
    Spells (indented depth json) (tokens json)
  | null, _ => .single .null rfl
  | bool true, _ => .single .true rfl
  | bool false, _ => .single .false rfl
  | number numeral, h => absurd (h _ List.mem_cons_self) (by simp [Token.isNumber])
  | string text, _ => .single (.string text) rfl
  | array [], _ => .token .openBracket rfl (.single .closeBracket rfl)
  | array (item :: items), h => by
    rw [HasNoNumber, tokens, List.forall_mem_append, List.forall_mem_cons] at h
    have hitem := spells_indented (depth + 1) item h.1.2
    exact .append (.token .openBracket rfl (hitem.onNewLine _))
      (spells_indentedItems depth items h.2)
  | object [], _ => .token .openBrace rfl (.single .closeBrace rfl)
  | object ((name, value) :: fields), h => by
    rw [HasNoNumber, tokens, List.forall_mem_append] at h
    have hvalue := spells_indented (depth + 1) value fun token ht ↦ h.1 token (by simp [ht])
    have hfield := hvalue.fieldOnNewLine name (depth + 1)
    exact .append (.token .openBrace rfl hfield) (spells_indentedFields depth fields h.2)

/-- The indented text of the items of an array after the first is written from their tokens. -/
theorem spells_indentedItems (depth : Nat) : (items : List Json) →
    (∀ token ∈ itemsTokens items, token.isNumber = false) →
    Spells (indentedItems depth items) (itemsTokens items)
  | [], _ => Spells.onNewLine (.single .closeBracket rfl) depth
  | item :: items, h => by
    rw [itemsTokens, List.forall_mem_append, List.forall_mem_cons] at h
    have hitem := spells_indented (depth + 1) item h.1.2
    exact .append (.token .comma rfl (hitem.onNewLine _)) (spells_indentedItems depth items h.2)

/-- The indented text of the fields of an object after the first is written from their tokens. -/
theorem spells_indentedFields (depth : Nat) : (fields : List (Option String × Json)) →
    (∀ token ∈ fieldsTokens fields, token.isNumber = false) →
    Spells (indentedFields depth fields) (fieldsTokens fields)
  | [], _ => Spells.onNewLine (.single .closeBrace rfl) depth
  | (name, value) :: fields, h => by
    rw [fieldsTokens, List.forall_mem_append] at h
    have hvalue := spells_indented (depth + 1) value fun token ht ↦ h.1 token (by simp [ht])
    have hfield := hvalue.fieldOnNewLine name (depth + 1)
    exact .append (.token .comma rfl hfield) (spells_indentedFields depth fields h.2)

end

/-! ### Reading -/

private theorem exists_tokens_eq_cons (json : Json) :
    ∃ token rest, json.tokens = token :: rest ∧ token ≠ .closeBracket := by
  cases json with
  | null => exact ⟨_, _, rfl, by simp⟩
  | bool value => cases value <;> exact ⟨_, _, rfl, by simp⟩
  | number numeral => exact ⟨_, _, rfl, by simp⟩
  | string text => exact ⟨_, _, rfl, by simp⟩
  | array items => cases items <;> exact ⟨_, _, rfl, by simp⟩
  | object fields => cases fields <;> exact ⟨_, _, rfl, by simp⟩

private theorem valueOf?_openBracket {token : Token} (h : token ≠ .closeBracket) (most : Nat)
    (rest : List Token) :
    valueOf? (most + 1) (.openBracket :: token :: rest) =
      (valueOf? most (token :: rest)).bind fun (item, rest) ↦
        (itemsOf? most rest).map fun (items, rest) ↦ (.array (item :: items), rest) := by
  rw [valueOf?]
  · simp only [Option.map_eq_bind]
    rfl
  · exact fun _ heq ↦ h (List.cons.inj heq).1

mutual

/-- The tokens of a value are read as that value, up to whatever follows them. -/
theorem valueOf?_tokens : (json : Json) → {most : Nat} → (rest : List Token) →
    (tokens json).length ≤ most → valueOf? most (tokens json ++ rest) = some (json, rest)
  | null, most + 1, rest, _ => rfl
  | bool true, most + 1, rest, _ => rfl
  | bool false, most + 1, rest, _ => rfl
  | number numeral, most + 1, rest, _ => rfl
  | string text, most + 1, rest, _ => rfl
  | array [], most + 1, rest, _ => rfl
  | array (item :: items), most + 1, rest, h => by
    rw [tokens, List.length_append, List.length_cons] at h
    have hitem := valueOf?_tokens item (itemsTokens items ++ rest) (show _ ≤ most by omega)
    have hitems := itemsOf?_tokens items rest (show _ ≤ most by omega)
    -- No item starts with a closing bracket, so the array is not taken for an empty one.
    obtain ⟨token, tail, htokens, hclose⟩ := exists_tokens_eq_cons item
    rw [tokens, List.append_assoc, List.cons_append]
    rw [htokens] at hitem ⊢
    rw [List.cons_append, valueOf?_openBracket hclose, ← List.cons_append, hitem]
    change (itemsOf? most (itemsTokens items ++ rest)).map _ = _
    rw [hitems]
    rfl
  | object [], most + 1, rest, _ => rfl
  | object ((name, value) :: fields), most + 1, rest, h => by
    rw [tokens, List.length_append, List.length_cons, List.length_cons, List.length_cons] at h
    have hvalue := valueOf?_tokens value (fieldsTokens fields ++ rest) (show _ ≤ most by omega)
    have hfields := fieldsOf?_tokens fields rest (show _ ≤ most by omega)
    rw [tokens, List.append_assoc]
    simp only [List.cons_append, valueOf?, hvalue, Option.bind_eq_bind, Option.bind_some, hfields]
    rfl

/-- The tokens of the items of an array after the first are read as these items. -/
theorem itemsOf?_tokens : (items : List Json) → {most : Nat} → (rest : List Token) →
    (itemsTokens items).length ≤ most →
    itemsOf? most (itemsTokens items ++ rest) = some (items, rest)
  | [], most + 1, rest, _ => rfl
  | item :: items, most + 1, rest, h => by
    rw [itemsTokens, List.length_append, List.length_cons] at h
    have hitem := valueOf?_tokens item (itemsTokens items ++ rest) (show _ ≤ most by omega)
    have hitems := itemsOf?_tokens items rest (show _ ≤ most by omega)
    rw [itemsTokens, List.append_assoc]
    simp only [List.cons_append, itemsOf?, hitem, Option.bind_eq_bind, Option.bind_some, hitems]
    rfl

/-- The tokens of the fields of an object after the first are read as these fields. -/
theorem fieldsOf?_tokens : (fields : List (Option String × Json)) → {most : Nat} →
    (rest : List Token) → (fieldsTokens fields).length ≤ most →
    fieldsOf? most (fieldsTokens fields ++ rest) = some (fields, rest)
  | [], most + 1, rest, _ => rfl
  | (name, value) :: fields, most + 1, rest, h => by
    rw [fieldsTokens, List.length_append, List.length_cons, List.length_cons, List.length_cons] at h
    have hvalue := valueOf?_tokens value (fieldsTokens fields ++ rest) (show _ ≤ most by omega)
    have hfields := fieldsOf?_tokens fields rest (show _ ≤ most by omega)
    rw [fieldsTokens, List.append_assoc]
    simp only [List.cons_append, fieldsOf?, hvalue, Option.bind_eq_bind, Option.bind_some, hfields]
    rfl

end

/-! ### Texts -/

variable {json : Json} {cs : List Char}

/-- A text that is written from the tokens of a value is read as that value. -/
theorem ofChars?_of_spells (h : Spells cs json.tokens) : ofChars? cs = some json := by
  have hvalue := valueOf?_tokens json [] (Nat.le_refl _)
  rw [List.append_nil] at hvalue
  rw [ofChars?, h.tokens?_eq]
  simp only [Option.bind_eq_bind, Option.bind_some, hvalue]

/-- A value without numbers is read back from its compact text. -/
theorem ofText?_compactText (h : json.HasNoNumber) :
    ofText? json.compactText = some json := by
  rw [ofText?, compactText, String.toList_ofList]
  exact ofChars?_of_spells (spells_compact json h)

/-- A value without numbers is read back from its indented text, also with an end of line behind
it. -/
theorem ofText?_indentedText (h : json.HasNoNumber) :
    ofText? json.indentedText = some json ∧
      ofText? (json.indentedText ++ "\n") = some json := by
  have hspells := spells_indented 0 json h
  have hline : Spells (json.indented 0 ++ ['\n']) (json.tokens ++ []) :=
    hspells.append (.space rfl .nil)
  rw [List.append_nil] at hline
  constructor
  · rw [ofText?, indentedText, String.toList_ofList]
    exact ofChars?_of_spells hspells
  · rw [ofText?, indentedText, String.toList_append, String.toList_ofList]
    exact ofChars?_of_spells hline

end Agenda.Json
