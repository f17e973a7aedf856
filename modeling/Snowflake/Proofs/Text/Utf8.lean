import Mathlib

/-!
Texts as bytes. An ASCII character is one byte, its own number, and every other character starts
with a byte beyond ASCII: characters of an ASCII class can be told by their bytes.
-/

namespace Snowflake.Utf8

theorem utf8EncodeChar_of_le {c : Char} (h : c.toNat ≤ 127) :
    String.utf8EncodeChar c = [UInt8.ofNat c.toNat] :=
  if_pos h

theorem toNat_byte_of_le {c : Char} (h : c.toNat ≤ 127) :
    (UInt8.ofNat c.toNat).toNat = c.toNat :=
  UInt8.toNat_ofNat_of_lt' (Nat.lt_of_le_of_lt h (by decide))

theorem exists_utf8EncodeChar_eq_cons {c : Char} (h : 127 < c.toNat) :
    ∃ b bs, String.utf8EncodeChar c = b :: bs ∧ 127 < b.toNat := by
  obtain ⟨n, bs, hencode, hlow, hhigh⟩ :
      ∃ n bs, String.utf8EncodeChar c = UInt8.ofNat n :: bs ∧ 192 ≤ n ∧ n < 256 := by
    rw [String.utf8EncodeChar, Char.toNat_val, if_neg (Nat.not_le.mpr h)]
    split
    · exact ⟨_, _, rfl, by omega, by omega⟩
    split
    · exact ⟨_, _, rfl, by omega, by omega⟩
    · exact ⟨_, _, rfl, by omega, by omega⟩
  refine ⟨_, bs, hencode, ?_⟩
  rw [UInt8.toNat_ofNat_of_lt' hhigh]
  omega

theorem toList_toByteArray (s : String) :
    s.toByteArray.data.toList = s.toList.flatMap String.utf8EncodeChar := by
  rw [← String.utf8Encode_toList]
  simp [List.utf8Encode]

/-- The bytes of ASCII characters are their numbers. -/
theorem toList_toByteArray_of_le {s : String} (h : ∀ c ∈ s.toList, c.toNat ≤ 127) :
    s.toByteArray.data.toList = s.toList.map fun c => UInt8.ofNat c.toNat := by
  rw [toList_toByteArray, List.map_eq_flatMap]
  exact List.flatMap_congr fun c hc => utf8EncodeChar_of_le (h c hc)

theorem compare_byte (a b : UInt8) : compare a b = compare a.toNat b.toNat := by
  show compareOfLessAndEq a b = compareOfLessAndEq a.toNat b.toNat
  simp only [compareOfLessAndEq, UInt8.lt_iff_toNat_lt, UInt8.toNat_inj]

/-- The order of texts by their bytes, of which the first that differ decide. -/
def compareBytes (s t : String) : Ordering :=
  List.compareLex compare s.toByteArray.data.toList t.toByteArray.data.toList

section Class

variable {ofByte : UInt8 → Bool} {ofChar : Char → Bool}
  (hascii : ∀ c, c.toNat ≤ 127 → ofByte (UInt8.ofNat c.toNat) = ofChar c)
  (hbyte : ∀ b, 127 < b.toNat → ofByte b = false) (hchar : ∀ c, 127 < c.toNat → ofChar c = false)

include hascii hbyte hchar

theorem all_utf8EncodeChar (c : Char) : (String.utf8EncodeChar c).all ofByte = ofChar c := by
  rcases Nat.lt_or_ge 127 c.toNat with hlt | hle
  · obtain ⟨b, bs, hencode, hb⟩ := exists_utf8EncodeChar_eq_cons hlt
    rw [hencode, List.all_cons, hbyte b hb, Bool.false_and, hchar c hlt]
  · rw [utf8EncodeChar_of_le hle, List.all_cons, List.all_nil, Bool.and_true, hascii c hle]

/-- An ASCII class that is tested on the bytes of a text is tested on its characters. -/
theorem all_toByteArray (s : String) :
    s.toByteArray.data.toList.all ofByte = s.toList.all ofChar := by
  rw [toList_toByteArray, List.all_flatMap]
  simp only [all_utf8EncodeChar hascii hbyte hchar]

end Class

end Snowflake.Utf8
