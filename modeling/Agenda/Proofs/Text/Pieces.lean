import Agenda.Proofs.Text.Numeral

/-!
# Pieces of a text

What it is for a text to consist of pieces with one separator between any two of them (`IsSplit`),
and for a piece to be a number (`ReadsAs`), without regard to how either is found out. Splitting and
reading find exactly these (`isSplit_iff`, `readInt64?_eq_some_iff`).
-/

namespace Agenda.Text

/-! ### Between separators -/

/-- A text consists of the pieces between its separators. Two separators in a row have an empty
piece between them, and so has the text an empty piece at an end where it has a separator. -/
structure IsSplit (separator : Char) (cs : List Char) (pieces : List (List Char)) : Prop where
  /-- Even the empty text has a piece, the empty one. -/
  ne_nil : pieces ≠ []
  /-- The text is split at every separator. -/
  separator_notMem : ∀ piece ∈ pieces, separator ∉ piece
  /-- With the separators put back, the pieces are the text. -/
  joined : [separator].intercalate pieces = cs

private theorem notMem_of_mem_splitOn {separator : Char} {cs piece : List Char}
    (h : piece ∈ cs.splitOn separator) : separator ∉ piece := by
  induction cs generalizing piece with
  | nil =>
    rw [List.splitOn_nil, List.mem_singleton] at h
    simp [h]
  | cons c cs ih =>
    obtain ⟨first, others, hsplit⟩ := List.exists_cons_of_ne_nil (List.splitOn_ne_nil separator cs)
    rw [List.splitOn_cons_eq_if_modifyHead, hsplit] at h
    split at h
    · rcases List.mem_cons.1 h with rfl | h
      · exact List.not_mem_nil
      · exact ih (hsplit ▸ h)
    · next hc =>
      rw [List.modifyHead_cons, List.mem_cons] at h
      rcases h with rfl | h
      · rw [List.mem_cons, not_or]
        exact ⟨fun heq ↦ hc (beq_iff_eq.2 heq.symm), ih (hsplit ▸ List.mem_cons_self)⟩
      · exact ih (hsplit ▸ List.mem_cons_of_mem first h)

/-- The pieces of a text are found by splitting it. -/
theorem isSplit_iff {separator : Char} {cs : List Char} {pieces : List (List Char)} :
    IsSplit separator cs pieces ↔ cs.splitOn separator = pieces := by
  constructor
  · rintro ⟨hne, hseparator, rfl⟩
    exact List.splitOn_intercalate separator hseparator hne
  · rintro rfl
    exact ⟨List.splitOn_ne_nil separator cs, fun piece ↦ notMem_of_mem_splitOn,
      List.intercalate_splitOn separator⟩

/-! ### Joined lists -/

/-- A character of a joined list is one of the separator or of an entry. -/
theorem mem_intercalate {c : Char} {separator : List Char} {entries : List (List Char)}
    (h : c ∈ separator.intercalate entries) : c ∈ separator ∨ ∃ entry ∈ entries, c ∈ entry := by
  induction entries with
  | nil => exact absurd h (by simp)
  | cons entry entries ih =>
    cases entries with
    | nil =>
      rw [List.intercalate_singleton] at h
      exact .inr ⟨entry, List.mem_singleton_self entry, h⟩
    | cons next entries =>
      rw [List.intercalate_cons_cons, List.mem_append, List.mem_append] at h
      rcases h with (h | h) | h
      · exact .inr ⟨entry, List.mem_cons_self, h⟩
      · exact .inl h
      · exact (ih h).imp id fun ⟨found, hmem, hc⟩ ↦ ⟨found, List.mem_cons_of_mem entry hmem, hc⟩

/-- A text is parted in one way at the first place where a character stands. -/
theorem eq_of_append_cons_eq {c : Char} {xs ys xs' ys' : List Char} (h : c ∉ xs) (h' : c ∉ xs')
    (heq : xs ++ c :: ys = xs' ++ c :: ys') : xs = xs' ∧ ys = ys' := by
  induction xs generalizing xs' with
  | nil =>
    cases xs' with
    | nil => exact ⟨rfl, (List.cons.inj heq).2⟩
    | cons x' xs' =>
      obtain ⟨rfl, _⟩ := List.cons.inj heq
      exact absurd List.mem_cons_self h'
  | cons x xs ih =>
    cases xs' with
    | nil =>
      obtain ⟨rfl, _⟩ := List.cons.inj heq
      exact absurd List.mem_cons_self h
    | cons x' xs' =>
      obtain ⟨rfl, hrest⟩ := List.cons.inj heq
      obtain ⟨rfl, rfl⟩ :=
        ih (List.not_mem_of_not_mem_cons h) (List.not_mem_of_not_mem_cons h') hrest
      exact ⟨rfl, rfl⟩

/-- Lists of which no entry has the character that starts the separator are joined to different
texts, unless they are the same. -/
theorem eq_of_intercalate_eq {c : Char} {rest : List Char} {entries entries' : List (List Char)}
    (hne : entries ≠ []) (hne' : entries' ≠ []) (h : ∀ entry ∈ entries, c ∉ entry)
    (h' : ∀ entry ∈ entries', c ∉ entry)
    (heq : (c :: rest).intercalate entries = (c :: rest).intercalate entries') :
    entries = entries' := by
  induction entries generalizing entries' with
  | nil => exact absurd rfl hne
  | cons entry entries ih =>
    obtain ⟨entry', entries', rfl⟩ := List.exists_cons_of_ne_nil hne'
    have hentry := h entry List.mem_cons_self
    have hentry' := h' entry' List.mem_cons_self
    cases entries with
    | nil =>
      cases entries' with
      | nil =>
        rw [List.intercalate_singleton, List.intercalate_singleton] at heq
        rw [heq]
      | cons next' entries' =>
        -- One side has a separator and the other has none.
        rw [List.intercalate_singleton, List.intercalate_cons_cons] at heq
        rw [heq] at hentry
        simp at hentry
    | cons next entries =>
      cases entries' with
      | nil =>
        rw [List.intercalate_singleton, List.intercalate_cons_cons] at heq
        rw [← heq] at hentry'
        simp at hentry'
      | cons next' entries' =>
        rw [List.intercalate_cons_cons, List.intercalate_cons_cons, List.append_assoc,
          List.append_assoc, List.cons_append, List.cons_append] at heq
        obtain ⟨rfl, hrest⟩ := eq_of_append_cons_eq hentry hentry' heq
        rw [ih (List.cons_ne_nil _ _) (List.cons_ne_nil _ _)
          (fun found hmem ↦ h found (List.mem_cons_of_mem entry hmem))
          (fun found hmem ↦ h' found (List.mem_cons_of_mem entry hmem))
          (List.append_cancel_left hrest)]

/-! ### Numbers -/

/-- A run of one or more digits stands for a number. -/
structure IsRunOf (cs : List Char) (n : Nat) : Prop where
  ne_nil : cs ≠ []
  digits : ∀ c ∈ cs, c.isDigit = true
  value : Nat.ofDigitChars 10 cs 0 = n

/-- A run of digits stands for a whole number, with at most one sign in front. -/
inductive Denotes : List Char → Int → Prop where
  | unsigned {cs : List Char} {n : Nat} (hrun : IsRunOf cs n) : Denotes cs n
  | plus {cs : List Char} {n : Nat} (hrun : IsRunOf cs n) : Denotes ('+' :: cs) n
  | minus {cs : List Char} {n : Nat} (hrun : IsRunOf cs n) : Denotes ('-' :: cs) (-n)

/-- A text reads as a signed 64-bit integer. -/
def ReadsAs (cs : List Char) (n : Int) : Prop := Denotes cs n ∧ IsInt64 n

variable {cs : List Char}

/-- A natural number is read from a run of digits that stands for it. -/
theorem readNat?_eq_some_iff_isRunOf {n : Nat} : readNat? cs = some n ↔ IsRunOf cs n := by
  unfold readNat?
  rw [Option.ite_none_right_eq_some, Option.some.injEq, List.all_eq_true]
  exact ⟨fun h ↦ ⟨h.1.1, h.1.2, h.2⟩, fun h ↦ ⟨⟨h.ne_nil, h.digits⟩, h.value⟩⟩

/-- A padded numeral stands for its number. -/
theorem isRunOf_zeroPadded (width n : Nat) : IsRunOf (zeroPadded width n) n :=
  readNat?_eq_some_iff_isRunOf.1 (readNat?_zeroPadded width n)

/-- Behind a minus sign a natural number is read. -/
theorem readInt?_minus (cs : List Char) :
    readInt? ('-' :: cs) = (readNat? cs).map fun n : Nat ↦ -(n : Int) := by
  rw [readInt?]
  cases readNat? cs <;> rfl

private theorem readInt?_of_isRunOf {n : Nat} (h : IsRunOf cs n) :
    readInt? cs = some (n : Int) := by
  unfold readInt?
  split
  · exact absurd (h.digits _ List.mem_cons_self) (by decide)
  · exact absurd (h.digits _ List.mem_cons_self) (by decide)
  · rw [readNat?_eq_some_iff_isRunOf.2 h]
    rfl

/-- An integer is read from a text that stands for it. -/
theorem readInt?_eq_some_iff {n : Int} : readInt? cs = some n ↔ Denotes cs n := by
  constructor
  · intro h
    unfold readInt? at h
    split at h
    · rw [← readInt?, readInt?_minus] at h
      obtain ⟨k, hk, rfl⟩ := Option.map_eq_some_iff.1 h
      exact .minus (readNat?_eq_some_iff_isRunOf.1 hk)
    · obtain ⟨k, hk, rfl⟩ := Option.map_eq_some_iff.1 h
      exact .plus (readNat?_eq_some_iff_isRunOf.1 hk)
    · obtain ⟨k, hk, rfl⟩ := Option.map_eq_some_iff.1 h
      exact .unsigned (readNat?_eq_some_iff_isRunOf.1 hk)
  · intro h
    cases h with
    | unsigned hrun => exact readInt?_of_isRunOf hrun
    | plus hrun =>
      rw [readInt?, readNat?_eq_some_iff_isRunOf.2 hrun]
      rfl
    | minus hrun =>
      rw [readInt?_minus, readNat?_eq_some_iff_isRunOf.2 hrun]
      rfl

/-- A text stands for one integer at most. -/
theorem Denotes.unique {m n : Int} (hm : Denotes cs m) (hn : Denotes cs n) : m = n := by
  rw [← readInt?_eq_some_iff] at hm hn
  exact Option.some.inj (hm.symm.trans hn)

/-- A signed 64-bit integer is read from a text that reads as it. -/
theorem readInt64?_eq_some_iff {n : Int} : readInt64? cs = some n ↔ ReadsAs cs n := by
  rw [readInt64?, Option.filter_eq_some_iff, readInt?_eq_some_iff, decide_eq_true_eq, ReadsAs]

/-- No integer is read from any other text. -/
theorem readInt64?_eq_none_iff : readInt64? cs = none ↔ ¬∃ n, ReadsAs cs n := by
  simp only [Option.eq_none_iff_forall_ne_some, ne_eq, readInt64?_eq_some_iff, not_exists]

/-- A text reads as one integer at most. -/
theorem ReadsAs.unique {m n : Int} (hm : ReadsAs cs m) (hn : ReadsAs cs n) : m = n :=
  hm.1.unique hn.1

end Agenda.Text
