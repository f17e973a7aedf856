import Snowflake.Proofs.Text.Decimal
import Snowflake.Proofs.Text.Utf8

/-!
Numerals by the places of their digits. Their digits can be tested on bytes and taken one after the
other into a word that must not wrap: a value that has left the word never comes back to it.
-/

namespace Snowflake.Decimal

/-- One or more of the digits 0 to 9, with any number of zeros in front. -/
def IsDecimal (s : String) : Prop :=
  s ≠ "" ∧ ∀ c ∈ s.toList, '0' ≤ c ∧ c ≤ '9'

instance (s : String) : Decidable (IsDecimal s) :=
  decidable_of_iff (s ≠ "" ∧ s.toList.all fun c => '0' ≤ c ∧ c ≤ '9') (by simp [IsDecimal])

/-- The value of digits, each of which counts its own power of ten. -/
def placeValue : List Char → Nat
  | [] => 0
  | d :: ds => (d.toNat - 48) * 10 ^ ds.length + placeValue ds

theorem ofDigitChars_eq_placeValue (ds : List Char) :
    Nat.ofDigitChars 10 ds 0 = placeValue ds := by
  induction ds with
  | nil => rfl
  | cons d ds ih =>
      rw [Nat.ofDigitChars_cons, Nat.ofDigitChars_eq_ofDigitChars_zero, ih, placeValue]
      have hzero : '0'.toNat = 48 := rfl
      rw [hzero, Nat.mul_zero, Nat.zero_add, Nat.mul_comm]

theorem isDigit_iff_toNat {c : Char} : c.isDigit = true ↔ 48 ≤ c.toNat ∧ c.toNat ≤ 57 := by
  simp [Char.isDigit, UInt32.le_iff_toNat_le]

theorem isDigit_iff {c : Char} : c.isDigit = true ↔ '0' ≤ c ∧ c ≤ '9' :=
  isDigit_iff_toNat

theorem isNumeral_iff {s : String} {n : Nat} :
    IsNumeral s.toList n ↔ IsDecimal s ∧ placeValue s.toList = n := by
  rw [← ofDigitChars_eq_placeValue, IsDecimal, and_assoc]
  constructor
  · rintro ⟨hne, hall, hvalue⟩
    refine ⟨fun hs => hne (by rw [hs]; rfl), fun c hc => isDigit_iff.mp ?_, hvalue⟩
    exact List.all_eq_true.mp hall c hc
  · rintro ⟨hne, hall, hvalue⟩
    refine ⟨fun hs => hne (String.toList_eq_nil_iff.mp hs), ?_, hvalue⟩
    exact List.all_eq_true.mpr fun c hc => isDigit_iff.mpr (hall c hc)

/-- A numeral is the digits of its value after some zeros. -/
theorem IsNumeral.exists_eq_append {ds : List Char} {n : Nat} (h : IsNumeral ds n) :
    ∃ zeros, ds = List.replicate zeros '0' ++ digits n := by
  induction ds with
  | nil => exact absurd rfl h.ne_nil
  | cons d ds ih =>
      -- A zero goes if digits follow it; any other first digit is that of the value.
      by_cases hzero : d = '0' ∧ ds ≠ []
      · obtain ⟨rfl, hne⟩ := hzero
        have hall := h.all_isDigit
        rw [List.all_cons, Bool.and_eq_true] at hall
        obtain ⟨zeros, hds⟩ := ih ⟨hne, hall.2, h.value_eq⟩
        exact ⟨zeros + 1, by rw [List.replicate_succ, List.cons_append, ← hds]⟩
      · refine ⟨0, ?_⟩
        rw [List.replicate_zero, List.nil_append, ← h.value_eq]
        refine (digits_ofDigitChars h.ne_nil h.all_isDigit fun hhead => ?_).symm
        obtain rfl : d = '0' := Option.some_inj.mp hhead
        rw [not_not.mp fun hne => hzero ⟨rfl, hne⟩]

theorem eq_zero_of_head?_digits {n : Nat} (h : (digits n).head? = some '0') : n = 0 :=
  not_not.mp fun hn => head?_digits_ne_zero hn h

theorem placeValue_lt {ds : List Char} (hds : ds.all Char.isDigit = true) :
    placeValue ds < 10 ^ ds.length := by
  induction ds with
  | nil => exact Nat.one_pos
  | cons d ds ih =>
      rw [List.all_cons, Bool.and_eq_true] at hds
      have hd := toNat_of_isDigit hds.1
      calc
        placeValue (d :: ds) = (d.toNat - 48) * 10 ^ ds.length + placeValue ds := rfl
        _ < (d.toNat - 48) * 10 ^ ds.length + 10 ^ ds.length :=
          Nat.add_lt_add_left (ih hds.2) _
        _ = (d.toNat - 48 + 1) * 10 ^ ds.length := (Nat.succ_mul _ _).symm
        _ ≤ 10 * 10 ^ ds.length := Nat.mul_le_mul_right _ (by omega)
        _ = 10 ^ (d :: ds).length := Nat.pow_succ'.symm

/-- The low places decide only between numbers that agree in the places above them. -/
theorem compare_mul_add {m a b x y : Nat} (hx : x < m) (hy : y < m) :
    compare (a * m + x) (b * m + y) = (compare a b).then (compare x y) := by
  have hlt {a b x y : Nat} (hx : x < m) (h : a < b) : a * m + x < b * m + y := by
    have hmul : (a + 1) * m ≤ b * m := Nat.mul_le_mul_right m h
    rw [Nat.succ_mul] at hmul
    omega
  rcases Nat.lt_trichotomy a b with h | rfl | h
  · rw [Nat.compare_eq_lt.mpr h, Nat.compare_eq_lt.mpr (hlt hx h), Ordering.lt_then]
  · rw [Nat.compare_eq_eq.mpr rfl, Ordering.eq_then]
    simp only [Nat.compare_eq_ite_lt, Nat.add_lt_add_iff_left]
  · rw [Nat.compare_eq_gt.mpr h, Nat.compare_eq_gt.mpr (hlt hy h), Ordering.gt_then]

theorem compare_digitByte {c d : Char} (hc : c.isDigit = true) (hd : d.isDigit = true) :
    compare (UInt8.ofNat c.toNat) (UInt8.ofNat d.toNat) =
      compare (c.toNat - 48) (d.toNat - 48) := by
  obtain ⟨i, hi⟩ := Nat.exists_eq_add_of_le (toNat_of_isDigit hc).1
  obtain ⟨j, hj⟩ := Nat.exists_eq_add_of_le (toNat_of_isDigit hd).1
  rw [Utf8.compare_byte, Utf8.toNat_byte_of_le ((toNat_of_isDigit hc).2.trans (by decide)),
    Utf8.toNat_byte_of_le ((toNat_of_isDigit hd).2.trans (by decide)), hi, hj]
  simp only [Nat.compare_eq_ite_lt, Nat.add_lt_add_iff_left, Nat.add_sub_cancel_left]

/-- Digits in equal number are in the order of their values. -/
theorem compareLex_digitBytes {ds es : List Char} (hds : ds.all Char.isDigit = true)
    (hes : es.all Char.isDigit = true) (hlength : ds.length = es.length) :
    List.compareLex compare (ds.map fun c => UInt8.ofNat c.toNat)
        (es.map fun c => UInt8.ofNat c.toNat) =
      compare (placeValue ds) (placeValue es) := by
  induction ds generalizing es with
  | nil =>
      obtain rfl : es = [] := List.length_eq_zero_iff.mp hlength.symm
      rfl
  | cons d ds ih =>
      obtain ⟨e, es, rfl⟩ := List.exists_cons_of_length_eq_add_one hlength.symm
      rw [List.all_cons, Bool.and_eq_true] at hds hes
      have hlength' : ds.length = es.length := Nat.succ_inj.mp hlength
      have hvalue : placeValue es < 10 ^ ds.length := by
        rw [hlength']
        exact placeValue_lt hes.2
      rw [List.map_cons, List.map_cons, List.compareLex_cons_cons, compare_digitByte hds.1 hes.1,
        ih hds.2 hes.2 hlength', placeValue, placeValue, ← hlength',
        compare_mul_add (placeValue_lt hds.2) hvalue]

/-- A digit, as a byte. -/
def isDigitByte (b : UInt8) : Bool :=
  48 ≤ b && b ≤ 57

/-- The word with one more digit, if neither the product nor the sum wraps. -/
def push? (w digit : UInt64) : Option UInt64 :=
  if w ≤ 0xFFFFFFFFFFFFFFFF / 10 ∧ digit ≤ 0xFFFFFFFFFFFFFFFF - w * 10 then some (w * 10 + digit)
  else none

/-- One digit after the other, up to the first that has no room. -/
def accumulate? (w : UInt64) : List UInt8 → Option UInt64
  | [] => some w
  | b :: bs =>
      match push? w (b - 48).toUInt64 with
      | some w' => accumulate? w' bs
      | none => none

section Push

variable {w digit w' : UInt64}

theorem le_max_div_ten_iff : w ≤ 0xFFFFFFFFFFFFFFFF / 10 ↔ w.toNat * 10 < 2 ^ 64 := by
  have hten : (0xFFFFFFFFFFFFFFFF / 10 : UInt64).toNat = (2 ^ 64 - 1) / 10 := by decide
  rw [UInt64.le_iff_toNat_le, hten]
  omega

theorem toNat_mul_ten (h : w.toNat * 10 < 2 ^ 64) : (w * 10).toNat = w.toNat * 10 := by
  rw [UInt64.toNat_mul]
  exact Nat.mod_eq_of_lt h

theorem le_max_sub_iff (h : w.toNat * 10 < 2 ^ 64) :
    digit ≤ 0xFFFFFFFFFFFFFFFF - w * 10 ↔ w.toNat * 10 + digit.toNat < 2 ^ 64 := by
  have hmax : (0xFFFFFFFFFFFFFFFF : UInt64).toNat = 2 ^ 64 - 1 := by decide
  have hle : w * 10 ≤ 0xFFFFFFFFFFFFFFFF := by
    rw [UInt64.le_iff_toNat_le, hmax]
    exact Nat.le_sub_one_of_lt (w * 10).toNat_lt
  rw [UInt64.le_iff_toNat_le, UInt64.toNat_sub_of_le _ _ hle, toNat_mul_ten h, hmax]
  omega

theorem push?_eq_some_iff : push? w digit = some w' ↔ w'.toNat = w.toNat * 10 + digit.toNat := by
  rw [push?, Option.ite_none_right_eq_some, Option.some_inj, le_max_div_ten_iff]
  constructor
  · rintro ⟨⟨hmul, hadd⟩, rfl⟩
    rw [le_max_sub_iff hmul] at hadd
    rw [UInt64.toNat_add, toNat_mul_ten hmul, Nat.mod_eq_of_lt hadd]
  · intro h
    have hadd : w.toNat * 10 + digit.toNat < 2 ^ 64 := h ▸ w'.toNat_lt
    have hmul : w.toNat * 10 < 2 ^ 64 := Nat.lt_of_le_of_lt (Nat.le_add_right _ _) hadd
    refine ⟨⟨hmul, (le_max_sub_iff hmul).mpr hadd⟩, UInt64.toNat_inj.mp ?_⟩
    rw [UInt64.toNat_add, toNat_mul_ten hmul, h, Nat.mod_eq_of_lt hadd]

theorem le_of_push?_eq_none (h : push? w digit = none) : 2 ^ 64 ≤ w.toNat * 10 + digit.toNat := by
  by_contra hlt
  have hpush := push?_eq_some_iff.mpr (UInt64.toNat_ofNat_of_lt' (Nat.not_le.mp hlt))
  rw [h] at hpush
  cases hpush

end Push

theorem toNat_digitByte {c : Char} (h : c.isDigit = true) :
    (UInt8.ofNat c.toNat - 48).toUInt64.toNat = c.toNat - 48 := by
  have hc := toNat_of_isDigit h
  have hbyte := Utf8.toNat_byte_of_le (hc.2.trans (by decide))
  have hzero : (48 : UInt8) ≤ UInt8.ofNat c.toNat := by
    rw [UInt8.le_iff_toNat_le, hbyte]
    exact hc.1
  rw [UInt8.toNat_toUInt64, UInt8.toNat_sub_of_le _ _ hzero, hbyte]
  rfl

/-- A value that has left the word stays out of it, whatever digits follow. -/
theorem accumulate?_eq_some_iff {ds : List Char} (hds : ds.all Char.isDigit = true)
    {w w' : UInt64} :
    accumulate? w (ds.map fun c => UInt8.ofNat c.toNat) = some w' ↔
      w'.toNat = Nat.ofDigitChars 10 ds w.toNat := by
  induction ds generalizing w with
  | nil =>
      rw [List.map_nil, accumulate?, Option.some_inj, Nat.ofDigitChars_nil, eq_comm,
        UInt64.toNat_inj]
  | cons d ds ih =>
      rw [List.all_cons, Bool.and_eq_true] at hds
      have hvalue : Nat.ofDigitChars 10 (d :: ds) w.toNat =
          Nat.ofDigitChars 10 ds (w.toNat * 10 + (UInt8.ofNat d.toNat - 48).toUInt64.toNat) := by
        rw [Nat.ofDigitChars_cons, toNat_digitByte hds.1, Nat.mul_comm]
        rfl
      rw [hvalue, List.map_cons, accumulate?]
      rcases hpush : push? w (UInt8.ofNat d.toNat - 48).toUInt64 with _ | pushed
      · simp only [reduceCtorEq, false_iff]
        have hword := w'.toNat_lt
        have hgone := le_of_push?_eq_none hpush
        have hstays := le_ofDigitChars ds
          (w.toNat * 10 + (UInt8.ofNat d.toNat - 48).toUInt64.toNat)
        omega
      · rw [ih hds.2, ← push?_eq_some_iff.mp hpush]

theorem all_isDigitByte (s : String) :
    s.toByteArray.data.toList.all isDigitByte = s.toList.all Char.isDigit := by
  have hbyte (b : UInt8) : isDigitByte b = true ↔ 48 ≤ b.toNat ∧ b.toNat ≤ 57 := by
    simp [isDigitByte, UInt8.le_iff_toNat_le]
  refine Utf8.all_toByteArray (fun c hc => ?_) (fun b hb => ?_) (fun c hc => ?_) s
  · rw [Bool.eq_iff_iff, hbyte, isDigit_iff_toNat, Utf8.toNat_byte_of_le hc]
  · rw [Bool.eq_false_iff, ne_eq, hbyte]
    omega
  · rw [Bool.eq_false_iff, ne_eq, isDigit_iff_toNat]
    omega

/-- Digits are taken into a word as far as it holds them. -/
theorem accumulate?_bytes {s : String} (hne : s ≠ "") (hall : s.toList.all Char.isDigit = true) :
    accumulate? 0 s.toByteArray.data.toList = word? s.toList := by
  have hascii : ∀ c ∈ s.toList, c.toNat ≤ 127 := fun c hc =>
    (toNat_of_isDigit (List.all_eq_true.mp hall c hc)).2.trans (by decide)
  apply Option.ext
  intro w
  rw [Utf8.toList_toByteArray_of_le hascii, accumulate?_eq_some_iff hall, word?_eq_some_iff,
    UInt64.toNat_zero]
  constructor
  · intro h
    exact ⟨fun hs => hne (String.toList_eq_nil_iff.mp hs), hall, h.symm⟩
  · intro h
    exact h.value_eq.symm

end Snowflake.Decimal
