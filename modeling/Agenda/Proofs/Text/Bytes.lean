import Mathlib.Data.String.Basic
import Agenda.Proofs.Text.Numeral

/-!
# Bytes of a text

A text is kept as its bytes, and these are what two stored texts are compared by. A text of ASCII
characters has one byte for each, so its place in the order of bytes is that in the order of
characters (`bytes_lt_bytes_iff`).
-/

namespace Agenda.Text

/-- The bytes of a text in UTF-8. -/
def bytes (text : String) : List UInt8 := text.toUTF8.data.toList

/-- Every character is one of ASCII. -/
def IsAscii (cs : List Char) : Prop := ∀ c ∈ cs, c.toNat < 128

/-- Digits are characters of ASCII. -/
theorem isAscii_of_all_isDigit {cs : List Char} (h : cs.all Char.isDigit = true) : IsAscii cs := by
  intro c hc
  have := digit_lt (List.all_eq_true.1 h c hc)
  omega

private theorem utf8EncodeChar_of_lt {c : Char} (h : c.toNat < 128) :
    String.utf8EncodeChar c = [c.toUInt8] := by
  apply String.utf8EncodeChar_eq_singleton
  rw [Char.utf8Size_eq_one_iff, UInt32.le_iff_toNat_le]
  exact Nat.le_of_lt_succ h

/-- A text of ASCII characters has the byte of each. -/
theorem bytes_ofList {cs : List Char} (h : IsAscii cs) :
    bytes (String.ofList cs) = cs.map Char.toUInt8 := by
  unfold bytes
  rw [String.toUTF8_eq_toByteArray, String.toByteArray_ofList]
  induction cs with
  | nil => rfl
  | cons c cs ih =>
    obtain ⟨hc, hcs⟩ := List.forall_mem_cons.1 h
    rw [List.utf8Encode_cons, ByteArray.data_append, Array.toList_append, ih hcs,
      List.utf8Encode_singleton, utf8EncodeChar_of_lt hc, List.data_toByteArray, List.map_cons]
    rfl

private theorem toNat_toUInt8 {c : Char} (h : c.toNat < 128) : c.toUInt8.toNat = c.toNat := by
  change c.toNat % 256 = c.toNat
  omega

private theorem toUInt8_lt_toUInt8_iff {c d : Char} (hc : c.toNat < 128) (hd : d.toNat < 128) :
    c.toUInt8 < d.toUInt8 ↔ c < d := by
  rw [UInt8.lt_iff_toNat_lt, toNat_toUInt8 hc, toNat_toUInt8 hd, Char.lt_def,
    UInt32.lt_iff_toNat_lt]
  rfl

private theorem toUInt8_eq_toUInt8_iff {c d : Char} (hc : c.toNat < 128) (hd : d.toNat < 128) :
    c.toUInt8 = d.toUInt8 ↔ c = d := by
  rw [← UInt8.toNat_inj, toNat_toUInt8 hc, toNat_toUInt8 hd, Char.toNat_inj]

private theorem map_toUInt8_lt_iff {cs ds : List Char} (hcs : IsAscii cs) (hds : IsAscii ds) :
    cs.map Char.toUInt8 < ds.map Char.toUInt8 ↔ cs < ds := by
  induction cs generalizing ds with
  | nil =>
    cases ds with
    | nil => exact iff_of_false (List.not_lt_nil _) (List.not_lt_nil _)
    | cons d ds => exact iff_of_true (List.nil_lt_cons _ _) (List.nil_lt_cons _ _)
  | cons c cs ih =>
    cases ds with
    | nil => exact iff_of_false (List.not_lt_nil _) (List.not_lt_nil _)
    | cons d ds =>
      obtain ⟨hc, hcs⟩ := List.forall_mem_cons.1 hcs
      obtain ⟨hd, hds⟩ := List.forall_mem_cons.1 hds
      rw [List.map_cons, List.map_cons, List.cons_lt_cons_iff, List.cons_lt_cons_iff,
        toUInt8_lt_toUInt8_iff hc hd, toUInt8_eq_toUInt8_iff hc hd, ih hcs hds]

/-- Texts of ASCII characters are in the order of their bytes. -/
theorem bytes_lt_bytes_iff {s t : String} (hs : IsAscii s.toList) (ht : IsAscii t.toList) :
    bytes s < bytes t ↔ s < t := by
  rw [← String.ofList_toList (s := s), ← String.ofList_toList (s := t), bytes_ofList hs,
    bytes_ofList ht, map_toUInt8_lt_iff hs ht, String.lt_iff, String.toList_ofList,
    String.toList_ofList]

end Agenda.Text
