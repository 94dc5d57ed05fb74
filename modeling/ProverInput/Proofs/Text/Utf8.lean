import Mathlib.Data.List.Lex
import Mathlib.Tactic.SplitIfs

/-!
The UTF-8 bytes of a text. Texts in order of their characters are in order of their bytes, and the
bytes below the blank are the control characters themselves.
-/

namespace ProverInput.Text

def bytes (text : String) : List UInt8 :=
  text.toUTF8.data.toList

theorem bytes_eq (text : String) : bytes text = text.toList.flatMap String.utf8EncodeChar := by
  rw [bytes, String.toUTF8_eq_toByteArray, ← String.utf8Encode_toList, List.utf8Encode,
    List.toList_data_toByteArray]

theorem toNat_lt (c : Char) : c.toNat < 0x110000 := by
  rcases c.valid with below | ⟨_, below⟩
  · exact Nat.lt_trans below (by decide)
  · exact below

/-- The bytes of two characters differ before either encoding ends, whatever follows them. -/
theorem encode_lt_encode {c d : Char} (less : c.toNat < d.toNat) (rest others : List UInt8) :
    String.utf8EncodeChar c ++ rest < String.utf8EncodeChar d ++ others := by
  have boundC := toNat_lt c
  have boundD := toNat_lt d
  simp only [String.utf8EncodeChar, Char.toNat_val]
  generalize c.toNat = m at *
  generalize d.toNat = n at *
  -- one case for each pair of lengths; the bytes of equal lengths are digits of base 64
  split_ifs
  all_goals
    simp only [List.cons_append, List.nil_append, List.cons_lt_cons_iff, UInt8.lt_iff_toNat_lt,
      ← UInt8.toNat_inj, UInt8.toNat_ofNat']
    simp (disch := omega) only [Nat.mod_eq_of_lt]
    omega

theorem flatMap_encode_lt {text other : List Char} (less : text < other) :
    text.flatMap String.utf8EncodeChar < other.flatMap String.utf8EncodeChar := by
  induction less with
  | nil =>
      rename_i c rest
      rw [List.flatMap_nil, List.flatMap_cons]
      cases encoded : String.utf8EncodeChar c with
      | nil => exact absurd encoded String.utf8EncodeChar_ne_nil
      | cons byte bytes => exact List.nil_lt_cons byte _
  | rel below =>
      rw [List.flatMap_cons, List.flatMap_cons]
      exact encode_lt_encode below _ _
  | cons _ ih =>
      rw [List.flatMap_cons, List.flatMap_cons]
      exact List.Lex.append_left _ ih _

theorem bytes_lt_bytes {text other : String} (less : text < other) : bytes text < bytes other := by
  rw [bytes_eq, bytes_eq]
  exact flatMap_encode_lt (String.lt_iff.mp less)

theorem encode_control {c : Char} {byte : UInt8} (member : byte ∈ String.utf8EncodeChar c)
    (control : byte.toNat < 0x20) : c.toNat = byte.toNat := by
  have bound := toNat_lt c
  simp only [String.utf8EncodeChar, Char.toNat_val] at member
  split_ifs at member
  all_goals
    simp only [List.mem_cons, List.not_mem_nil, or_false, ← UInt8.toNat_inj,
      UInt8.toNat_ofNat'] at member
    omega

end ProverInput.Text
