import Snowflake.Proofs.Flake.Numeral
import Snowflake.Proofs.Flake.Order

/-!
Texts with zeros in front. The zeros change neither the value of a text nor what is read from it,
and texts of one length sort by their bytes as the identifiers do.
-/

namespace Snowflake.Flake

open Decimal

theorem length_text (f : Flake) : f.text.length = Nat.log 10 f.toNat + 1 := by
  rw [text, Decimal.text, String.length_ofList, length_digits]

theorem length_zeroPadded (f : Flake) (width : Nat) :
    (f.zeroPadded width).length = max width f.text.length := by
  rw [zeroPadded, String.length_ofList, length_padded_eq_max, text, Decimal.text,
    String.length_ofList]

theorem read_zeroPadded (f : Flake) (width : Nat) : read (f.zeroPadded width) = .ok f := by
  apply read_eq_ok_iff.mpr
  rw [zeroPadded, String.toList_ofList]
  exact isNumeral_padded width f.toNat

theorem bytes_zeroPadded (f : Flake) (width : Nat) :
    (f.zeroPadded width).toByteArray.data.toList =
      (padded width f.toNat).map fun c => UInt8.ofNat c.toNat := by
  have hascii : ∀ c ∈ (f.zeroPadded width).toList, c.toNat ≤ 127 := by
    rw [zeroPadded, String.toList_ofList]
    intro c hc
    have hdigit := List.all_eq_true.mp (all_isDigit_padded width f.toNat) c hc
    exact (toNat_of_isDigit hdigit).2.trans (by decide)
  rw [Utf8.toList_toByteArray_of_le hascii, zeroPadded, String.toList_ofList]

/-- Where both have room, texts of one width are in the order of the identifiers. -/
theorem compareBytes_zeroPadded {a b : Flake} {width : Nat} (hwidth : 0 < width)
    (ha : a.toNat < 10 ^ width) (hb : b.toNat < 10 ^ width) :
    Utf8.compareBytes (a.zeroPadded width) (b.zeroPadded width) = compare a b := by
  have hlength : (padded width a.toNat).length = (padded width b.toNat).length :=
    (length_padded hwidth ha).trans (length_padded hwidth hb).symm
  rw [Utf8.compareBytes, bytes_zeroPadded, bytes_zeroPadded,
    compareLex_digitBytes (all_isDigit_padded width _) (all_isDigit_padded width _) hlength,
    ← ofDigitChars_eq_placeValue, ← ofDigitChars_eq_placeValue, ofDigitChars_padded,
    ofDigitChars_padded]
  rfl

theorem toNat_lt_ten_pow_twenty (f : Flake) : f.toNat < 10 ^ 20 :=
  f.word.toNat_lt.trans (by decide)

theorem length_paddedText (f : Flake) : f.paddedText.length = 20 := by
  rw [paddedText, zeroPadded, String.length_ofList]
  exact length_padded (by decide) f.toNat_lt_ten_pow_twenty

theorem compare_eq_compare_key (a b : Flake) :
    compare a b = compare a.fields.key b.fields.key := by
  show compare a.toNat b.toNat = _
  rw [← cmp_eq_compare, ← cmp_eq_compare]
  simp only [cmp, cmpUsing, toNat_lt_iff_key_lt]

/-- Without the zeros, nine comes after ten. -/
example :
    let nine : Flake := ⟨9⟩
    let ten : Flake := ⟨10⟩
    Utf8.compareBytes nine.text ten.text = .gt ∧
      Utf8.compareBytes nine.paddedText ten.paddedText = .lt := by
  decide

end Snowflake.Flake
