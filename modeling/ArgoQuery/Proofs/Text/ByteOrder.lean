import Mathlib.Data.List.Lex
import Mathlib.Data.String.Basic

/-!
# The order of texts is the order of their bytes

Texts are compared character by character. In UTF-8 this is a comparison byte by byte: the encodings
of two characters differ at some byte that both have, and there the greater character has the
greater byte. `bytes_lt_bytes` says so of whole texts.
-/

namespace ArgoQuery.Text

/-- The bytes of a text in UTF-8. -/
def bytes (text : String) : List UInt8 := text.toUTF8.data.toList

/-- The bytes of a text are those of its characters one after the other. -/
theorem bytes_eq_flatMap (text : String) :
    bytes text = text.toList.flatMap String.utf8EncodeChar := by
  rw [bytes, String.toUTF8_eq_toByteArray, ← String.utf8Encode_toList, List.utf8Encode]
  simp

/-- The encoding of a lower character is lower, whatever follows.

The first bytes of encodings of different length lie in different ranges. Encodings of one length
hold the digits of the characters to base 64, the highest one first. -/
theorem utf8EncodeChar_append_lt {first second : Char} (before : first < second)
    (following following' : List UInt8) :
    String.utf8EncodeChar first ++ following < String.utf8EncodeChar second ++ following' := by
  have lower : first.val.toNat < second.val.toNat := before
  have range : second.val.toNat < 1114112 := by
    rcases second.valid with low | high
    · exact Nat.lt_trans low (by decide)
    · exact high.2
  rw [String.utf8EncodeChar, String.utf8EncodeChar]
  generalize first.val.toNat = low at lower
  generalize second.val.toNat = high at lower range
  split_ifs <;>
    simp only [List.cons_append, List.nil_append, List.cons_lt_cons_iff, UInt8.lt_iff_toNat_lt,
      ← UInt8.toNat_inj, UInt8.toNat_ofNat'] <;>
    simp (disch := omega) only [Nat.mod_eq_of_lt] <;>
    omega

/-- Texts are in the order of their bytes. -/
theorem bytes_lt_bytes {first second : String} (before : first < second) :
    bytes first < bytes second := by
  have order (first second : List Char) (before : first < second) :
      first.flatMap String.utf8EncodeChar < second.flatMap String.utf8EncodeChar := by
    induction before with
    | nil =>
      rename_i c rest
      rw [List.flatMap_nil, List.flatMap_cons]
      cases encoded : String.utf8EncodeChar c with
      | nil => exact absurd encoded String.utf8EncodeChar_ne_nil
      | cons byte others => exact List.nil_lt_cons byte _
    | cons _ ih => exact List.append_left_lt ih
    | rel lower => exact utf8EncodeChar_append_lt lower _ _
  rw [bytes_eq_flatMap, bytes_eq_flatMap]
  exact order _ _ (String.lt_iff_toList_lt.mp before)

end ArgoQuery.Text
