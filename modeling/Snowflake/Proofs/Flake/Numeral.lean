import Snowflake.Id
import Snowflake.Proofs.Flake.Text
import Snowflake.Proofs.Text.Numeral

/-!
The texts that are read as identifiers: digits only, at least one, with a value below `2 ^ 64`. An
identifier is written as it was read, less the zeros in front.
-/

namespace Snowflake

namespace Flake

open Decimal

/-- Reading as it is done on bytes, with the digits taken into a word. -/
def readBytes (s : String) : Except InvalidFlake Flake :=
  let bytes := s.toByteArray.data.toList
  if s = "" ∨ ¬ bytes.all isDigitByte then .error ⟨s⟩
  else
    match accumulate? 0 bytes with
    | some w => .ok ⟨w⟩
    | none => .error ⟨s⟩

theorem readBytes_eq_read (s : String) : readBytes s = read s := by
  simp only [readBytes, all_isDigitByte]
  split
  · rename_i hrefused
    refine (read_eq_error_iff.mpr ⟨rfl, fun f hf => ?_⟩).symm
    rcases hrefused with rfl | hall
    · exact hf.ne_nil rfl
    · exact hall hf.all_isDigit
  · rename_i htaken
    rw [not_or, not_not] at htaken
    rw [accumulate?_bytes htaken.1 htaken.2, read, ofDigits?]
    cases word? s.toList <;> rfl

section Read

variable {s : String} {f : Flake}

theorem read_eq_ok_iff_placeValue :
    read s = .ok f ↔ IsDecimal s ∧ placeValue s.toList = f.toNat :=
  read_eq_ok_iff.trans isNumeral_iff

theorem read_eq_error_of_not (h : ¬ (IsDecimal s ∧ placeValue s.toList < 2 ^ 64)) :
    read s = .error ⟨s⟩ := by
  refine read_eq_error_iff.mpr ⟨rfl, fun f hf => h ?_⟩
  obtain ⟨hdecimal, hvalue⟩ := isNumeral_iff.mp hf
  exact ⟨hdecimal, hvalue ▸ f.word.toNat_lt⟩

theorem exists_read_eq_ok_iff :
    (∃ f, read s = .ok f) ↔ IsDecimal s ∧ placeValue s.toList < 2 ^ 64 := by
  simp only [read_eq_ok_iff_placeValue]
  constructor
  · rintro ⟨f, hdecimal, hvalue⟩
    exact ⟨hdecimal, hvalue ▸ f.word.toNat_lt⟩
  · rintro ⟨hdecimal, hlt⟩
    exact ⟨⟨.ofNat (placeValue s.toList)⟩, hdecimal, (UInt64.toNat_ofNat_of_lt' hlt).symm⟩

/-- The text of an identifier is what it was read from, less the zeros in front. -/
theorem exists_toList_eq_append (h : read s = .ok f) :
    ∃ zeros, s.toList = List.replicate zeros '0' ++ f.text.toList := by
  rw [text, Decimal.text, String.toList_ofList]
  exact (read_eq_ok_iff.mp h).exists_eq_append

theorem text_eq_zero_of_head? (h : f.text.toList.head? = some '0') : f.text = "0" := by
  rw [text, Decimal.text, String.toList_ofList] at h
  rw [text, Decimal.text, eq_zero_of_head?_digits h]
  rfl

end Read

end Flake

namespace Id

variable {k : Kind} {s : String} {f : Flake}

theorem read_eq_ok_iff : read s = .ok (⟨f⟩ : Id k) ↔ Flake.read s = .ok f := by
  rw [read]
  cases Flake.read s <;> simp

theorem read_eq_error_of_read (h : Flake.read s = .error ⟨s⟩) :
    (read s : Except InvalidId (Id k)) = .error (.invalidFlake ⟨s⟩) := by
  rw [read, h]

end Id

/-- Reading takes exactly the decimal numerals below `2 ^ 64`, whatever their length, and gives
their value; all other texts come back in the error. A text that is written is read as what it was
written for, and one that is read is written without the zeros in front. Identifiers of every kind
are read from the same texts. -/
theorem Flake.read_exactly_decimal :
    (∀ s f, read s = .ok f ↔ Decimal.IsDecimal s ∧ Decimal.placeValue s.toList = f.toNat) ∧
    (∀ s, (∃ f, read s = .ok f) ↔
      Decimal.IsDecimal s ∧ Decimal.placeValue s.toList < 2 ^ 64) ∧
    (∀ s, ¬ (Decimal.IsDecimal s ∧ Decimal.placeValue s.toList < 2 ^ 64) →
      read s = .error ⟨s⟩) ∧
    (∀ s, read s = readBytes s) ∧
    (∀ f, read f.text = .ok f ∧ (f.text.toList.head? = some '0' → f.text = "0")) ∧
    (∀ s f, read s = .ok f →
      ∃ zeros, s.toList = List.replicate zeros '0' ++ f.text.toList) ∧
    ∀ k : Kind,
      (∀ s f, Id.read s = .ok (⟨f⟩ : Id k) ↔ read s = .ok f) ∧
      (∀ s, read s = .error ⟨s⟩ →
        (Id.read s : Except InvalidId (Id k)) = .error (.invalidFlake ⟨s⟩)) ∧
      ∀ id : Id k, Id.read id.text = .ok id := by
  refine ⟨fun s f => read_eq_ok_iff_placeValue, fun s => exists_read_eq_ok_iff,
    fun s => read_eq_error_of_not, fun s => (readBytes_eq_read s).symm,
    fun f => ⟨read_text f, text_eq_zero_of_head?⟩, fun s f => exists_toList_eq_append,
    fun k => ⟨fun s f => Id.read_eq_ok_iff, fun s => Id.read_eq_error_of_read,
      fun id => Id.read_eq_ok_iff.mpr (read_text id.flake)⟩⟩

/-- The greatest identifier with zeros in front, the number after it, and zero; and texts that are
no numerals, the last of them the digit five of another script. -/
theorem Flake.read_exactly_decimal_greatest :
    let greatest : Flake := ⟨0xFFFFFFFFFFFFFFFF⟩
    let zero : Flake := ⟨0⟩
    read "0018446744073709551615" = .ok greatest ∧
      (∃ zeros, "0018446744073709551615".toList =
        List.replicate zeros '0' ++ greatest.text.toList) ∧
      (Id.read "0018446744073709551615" : Except InvalidId PostId) = .ok ⟨greatest⟩ ∧
      read "18446744073709551616" = .error ⟨"18446744073709551616"⟩ ∧
      (zero.text.toList.head? = some '0' ∧ zero.text = "0") ∧
      ∀ s ∈ ["", "+5", " 5", "0x5", "1_000", "\u0665"],
        (Id.read s : Except InvalidId UserId) = .error (.invalidFlake ⟨s⟩) := by
  intro greatest zero
  obtain ⟨hread, -, herror, -, htext, hzeros, hid⟩ := read_exactly_decimal
  have hgreatest : read "0018446744073709551615" = .ok greatest :=
    (hread _ _).mpr ⟨by decide, by decide⟩
  have hhead : zero.text.toList.head? = some '0' := by decide
  refine ⟨hgreatest, hzeros _ _ hgreatest, ((hid .post).1 _ _).mpr hgreatest,
    herror _ (by decide), ⟨hhead, (htext zero).2 hhead⟩, fun s hs => ?_⟩
  refine (hid .user).2.1 s (herror s fun hdecimal => absurd hdecimal.1 ?_)
  fin_cases hs <;> decide

end Snowflake
