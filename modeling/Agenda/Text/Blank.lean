import Agenda.Text.CodeRange

/-!
# Blank characters

The characters with the Unicode property `White_Space`, and texts stripped of them at both ends.
-/

namespace Agenda.Text

/-- The code points with the property `White_Space`, as closed ranges. -/
def blankRanges : List (Nat × Nat) :=
  [(0x09, 0x0D), (0x20, 0x20), (0x85, 0x85), (0xA0, 0xA0), (0x1680, 0x1680), (0x2000, 0x200A),
   (0x2028, 0x2029), (0x202F, 0x202F), (0x205F, 0x205F), (0x3000, 0x3000)]

/-- Whether a character has the property `White_Space`. -/
def isBlank (c : Char) : Bool := inRanges blankRanges c

/-- The text without the blank characters at either end. -/
def trim (cs : List Char) : List Char :=
  ((cs.dropWhile isBlank).reverse.dropWhile isBlank).reverse

/-- Whether a text has nothing but blank characters. -/
def allBlank (cs : List Char) : Bool := cs.all isBlank

/-- Nothing remains after dropping exactly when everything is dropped. -/
private theorem dropWhile_isBlank_eq_nil_iff (cs : List Char) :
    cs.dropWhile isBlank = [] ↔ allBlank cs = true := by
  induction cs with
  | nil => exact ⟨fun _ => rfl, fun _ => rfl⟩
  | cons c cs ih =>
    rw [allBlank, List.all_cons, Bool.and_eq_true, List.dropWhile_cons]
    cases h : isBlank c with
    | false => simp
    | true => rw [if_pos rfl, ih, allBlank, eq_self, true_and]

/-- Stripping leaves nothing exactly of an all-blank text. -/
theorem trim_eq_nil_iff (cs : List Char) : trim cs = [] ↔ allBlank cs = true := by
  rw [trim, List.reverse_eq_nil_iff, dropWhile_isBlank_eq_nil_iff, allBlank, List.all_reverse]
  change allBlank (cs.dropWhile isBlank) = true ↔ _
  constructor
  · intro h
    have hall : ∀ c ∈ cs.takeWhile isBlank ++ cs.dropWhile isBlank, isBlank c = true := by
      intro c hc
      rcases List.mem_append.1 hc with htake | hdrop
      · exact List.all_eq_true.1 List.all_takeWhile c htake
      · exact List.all_eq_true.1 h c hdrop
    rw [List.takeWhile_append_dropWhile] at hall
    exact List.all_eq_true.2 hall
  · intro h
    rw [(dropWhile_isBlank_eq_nil_iff cs).2 h]
    rfl

/-- Blanks around a text make no difference to what is left of it. -/
theorem trim_append {before after : List Char} (hbefore : allBlank before = true)
    (hafter : allBlank after = true) (cs : List Char) :
    trim (before ++ cs ++ after) = trim cs := by
  by_cases hcs : allBlank cs = true
  · rw [(trim_eq_nil_iff cs).2 hcs, trim_eq_nil_iff]
    unfold allBlank at *
    rw [List.all_append, List.all_append, hbefore, hcs, hafter]
    rfl
  · have hkept : cs.dropWhile isBlank ≠ [] := mt (dropWhile_isBlank_eq_nil_iff cs).1 hcs
    have hend : after.reverse.dropWhile isBlank = [] := by
      rw [dropWhile_isBlank_eq_nil_iff, allBlank, List.all_reverse]
      exact hafter
    rw [trim, List.append_assoc, List.dropWhile_append,
      (dropWhile_isBlank_eq_nil_iff before).2 hbefore, List.isEmpty_nil, if_pos rfl,
      List.dropWhile_append, if_neg (mt List.isEmpty_iff.1 hkept), List.reverse_append,
      List.dropWhile_append, hend, List.isEmpty_nil, if_pos rfl]
    rfl

/-- Nothing is dropped of a text without blanks. -/
private theorem dropWhile_isBlank_eq_self {cs : List Char} (h : ∀ c ∈ cs, isBlank c = false) :
    cs.dropWhile isBlank = cs := by
  cases cs with
  | nil => rfl
  | cons c cs =>
    rw [List.dropWhile_cons, h c List.mem_cons_self]
    rfl

/-- A text without blanks is left as it is. -/
theorem trim_eq_self {cs : List Char} (h : ∀ c ∈ cs, isBlank c = false) : trim cs = cs := by
  have hreverse : ∀ c ∈ cs.reverse, isBlank c = false := by
    intro c hc
    exact h c (List.mem_reverse.1 hc)
  rw [trim, dropWhile_isBlank_eq_self h, dropWhile_isBlank_eq_self hreverse, List.reverse_reverse]

end Agenda.Text
