import Mathlib
import Snowflake.Text.Blank
import Snowflake.Text.Decimal

/-!
Numerals inside longer texts: the digits end where the first character follows that is none, and
zeros in front change the length of a numeral and nothing else.
-/

namespace Snowflake.Decimal

/-- What may follow a numeral without being taken for a part of it. -/
def Ends (rest : List Char) : Prop :=
  ∀ c ∈ rest.head?, c.isDigit = false

theorem toNat_of_isDigit {c : Char} (h : c.isDigit = true) : 48 ≤ c.toNat ∧ c.toNat ≤ 57 := by
  simpa [Char.isDigit, UInt32.le_iff_toNat_le] using h

theorem isBlank_of_isDigit {c : Char} (h : c.isDigit = true) : Blank.isBlank c = false := by
  have hc := toNat_of_isDigit h
  simp only [Blank.isBlank, Blank.ranges, List.any_cons, List.any_nil, Bool.or_false,
    Bool.or_eq_false_iff, Bool.and_eq_false_iff, decide_eq_false_iff_not]
  omega

section Digits

variable {ds rest : List Char}

theorem ends_cons {c : Char} (h : c.isDigit = false) : Ends (c :: rest) := by
  intro d hd
  obtain rfl := Option.some_inj.mp hd
  exact h

theorem takeWhile_of_ends (h : Ends rest) : rest.takeWhile Char.isDigit = [] := by
  cases rest with
  | nil => rfl
  | cons c cs => simp [h c rfl]

theorem takeWhile_append (hds : ds.all Char.isDigit = true) (hrest : Ends rest) :
    (ds ++ rest).takeWhile Char.isDigit = ds := by
  rw [List.takeWhile_append_of_pos (List.all_eq_true.mp hds), takeWhile_of_ends hrest,
    List.append_nil]

theorem dropWhile_append (hds : ds.all Char.isDigit = true) (hrest : Ends rest) :
    (ds ++ rest).dropWhile Char.isDigit = rest := by
  rw [List.dropWhile_append_of_pos (List.all_eq_true.mp hds)]
  cases rest with
  | nil => rfl
  | cons c cs => simp [hrest c rfl]

theorem exists_eq_cons (hne : ds ≠ []) (hds : ds.all Char.isDigit = true) :
    ∃ c cs, ds = c :: cs ∧ c.isDigit = true := by
  obtain ⟨c, cs, rfl⟩ := List.exists_cons_of_ne_nil hne
  exact ⟨c, cs, rfl, List.all_eq_true.mp hds c List.mem_cons_self⟩

end Digits

/-- The characters `ds` are a numeral with the value `n`: one or more of the digits 0 to 9, with any
number of zeros in front. -/
structure IsNumeral (ds : List Char) (n : Nat) : Prop where
  ne_nil : ds ≠ []
  all_isDigit : ds.all Char.isDigit = true
  value_eq : Nat.ofDigitChars 10 ds 0 = n

theorem IsNumeral.not_mem {ds : List Char} {n : Nat} (h : IsNumeral ds n) {c : Char}
    (hc : c.isDigit = false) : c ∉ ds := by
  intro hmem
  rw [List.all_eq_true.mp h.all_isDigit c hmem] at hc
  cases hc

theorem value?_eq_some_iff {ds : List Char} {n : Nat} : value? ds = some n ↔ IsNumeral ds n := by
  constructor
  · intro h
    rw [value?] at h
    split at h
    · rename_i hds
      exact ⟨hds.1, hds.2, Option.some_inj.mp h⟩
    · cases h
  · rintro ⟨hne, hall, rfl⟩
    exact if_pos ⟨hne, hall⟩

theorem word?_eq_some_iff {ds : List Char} {w : UInt64} :
    word? ds = some w ↔ IsNumeral ds w.toNat := by
  rw [← value?_eq_some_iff, word?]
  rcases value? ds with _ | n
  · simp
  · simp only [Option.ite_none_right_eq_some, Option.some_inj]
    constructor
    · rintro ⟨hlt, rfl⟩
      exact (UInt64.toNat_ofNat_of_lt' hlt).symm
    · rintro rfl
      exact ⟨w.toNat_lt, UInt64.ofNat_toNat⟩

theorem length_digits_le {n width : Nat} (hwidth : 0 < width) (h : n < 10 ^ width) :
    (digits n).length ≤ width :=
  (Nat.length_toDigits_le_iff (by decide) hwidth).mpr h

theorem length_digits (n : Nat) : (digits n).length = Nat.log 10 n + 1 := by
  apply Nat.le_antisymm
  · apply length_digits_le (Nat.succ_pos _)
    exact Nat.lt_pow_succ_log_self (by decide) n
  · by_contra hless
    have hlength : (digits n).length ≤ Nat.log 10 n := Nat.not_lt.mp hless
    have hpos : 0 < (digits n).length := List.length_pos_iff.mpr (digits_ne_nil n)
    have hlog : 0 < Nat.log 10 n := Nat.lt_of_lt_of_le hpos hlength
    have hlt : n < 10 ^ Nat.log 10 n := (Nat.length_toDigits_le_iff (by decide) hlog).mp hlength
    have hten : 10 ≤ n := (Nat.log_pos_iff.mp hlog).1
    exact Nat.not_le.mpr hlt (Nat.pow_log_le_self 10 (by omega))

theorem ofDigitChars_digits (n : Nat) : Nat.ofDigitChars 10 (digits n) 0 = n :=
  Nat.ofDigitChars_ten_toDigits

theorem digits_injective : Function.Injective digits :=
  Function.LeftInverse.injective ofDigitChars_digits

/-- Digits that follow never make a value less. -/
theorem le_ofDigitChars (ds : List Char) (n : Nat) : n ≤ Nat.ofDigitChars 10 ds n := by
  rw [Nat.ofDigitChars_eq_ofDigitChars_zero]
  have hpow : 1 ≤ 10 ^ ds.length := Nat.one_le_pow _ _ (by decide)
  exact (Nat.le_mul_of_pos_left n hpow).trans (Nat.le_add_right _ _)

theorem head?_digits_ne_zero {n : Nat} (h : n ≠ 0) : (digits n).head? ≠ some '0' := by
  induction n using Nat.strong_induction_on with
  | _ n ih =>
      rw [digits, Nat.toDigits_eq_if (by decide)]
      split
      · rename_i hlt
        interval_cases n <;> first | exact absurd rfl h | decide
      · have hprefix := ih (n / 10) (by omega) (by omega)
        rw [List.head?_append_of_ne_nil _ Nat.toDigits_ne_nil]
        exact hprefix

theorem digitChar_sub {c : Char} (h : c.isDigit = true) : Nat.digitChar (c.toNat - 48) = c := by
  have hc := toNat_of_isDigit h
  have hdigit : ∀ n < 10, Nat.digitChar n = Char.ofNat (n + 48) := by decide
  rw [hdigit _ (by omega), Nat.sub_add_cancel hc.1, Char.ofNat_toNat]

/-- Digits without a zero in front are those of their value. -/
theorem digits_ofDigitChars {ds : List Char} (hne : ds ≠ []) (hds : ds.all Char.isDigit = true)
    (hzero : ds.head? = some '0' → ds = ['0']) : digits (Nat.ofDigitChars 10 ds 0) = ds := by
  induction ds using List.reverseRecOn with
  | nil => exact absurd rfl hne
  | append_singleton ds d ih =>
      rw [List.all_append, Bool.and_eq_true, List.all_cons, List.all_nil, Bool.and_true] at hds
      have hvalue : Nat.ofDigitChars 10 (ds ++ [d]) 0 =
          10 * Nat.ofDigitChars 10 ds 0 + (d.toNat - 48) := by
        rw [Nat.ofDigitChars_append, Nat.ofDigitChars_cons, Nat.ofDigitChars_nil]
        rfl
      have hd := toNat_of_isDigit hds.2
      have hlast : Nat.toDigits 10 (d.toNat - 48) = [d] := by
        rw [Nat.toDigits_of_lt_base (by omega), digitChar_sub hds.2]
      rw [digits, hvalue]
      by_cases hnil : ds = []
      · subst hnil
        simpa using hlast
      -- The digits before the last do not start with a zero, so that their value is not zero.
      have hfirst : ds.head? ≠ some '0' := by
        intro hhead
        have heq := hzero (by rw [List.head?_append_of_ne_nil _ hnil, hhead])
        rcases List.append_eq_singleton_iff.mp heq with ⟨hds, -⟩ | ⟨-, hd⟩
        · exact hnil hds
        · cases hd
      have hprefix := ih hnil hds.1 fun hhead => absurd hhead hfirst
      have hpos : 0 < Nat.ofDigitChars 10 ds 0 := by
        apply Nat.pos_of_ne_zero
        intro hvalue
        rw [hvalue] at hprefix
        rw [← hprefix] at hfirst
        exact hfirst rfl
      rw [← Nat.toDigits_append_toDigits (by decide) hpos (by omega), hlast]
      exact congrArg (· ++ [d]) hprefix

section Padded

variable (width n : Nat)

theorem padded_ne_nil : padded width n ≠ [] := by
  simp [padded, digits_ne_nil]

theorem all_isDigit_padded : (padded width n).all Char.isDigit = true := by
  rw [padded, List.all_append, all_isDigit_digits, Bool.and_true, List.all_replicate]
  split <;> rfl

theorem exists_padded_eq_cons : ∃ c cs, padded width n = c :: cs ∧ c.isDigit = true :=
  exists_eq_cons (padded_ne_nil width n) (all_isDigit_padded width n)

theorem ofDigitChars_padded : Nat.ofDigitChars 10 (padded width n) 0 = n := by
  rw [padded, Nat.ofDigitChars_append, Nat.ofDigitChars_replicate_zero, Nat.mul_zero,
    ofDigitChars_digits]

theorem isNumeral_padded : IsNumeral (padded width n) n :=
  ⟨padded_ne_nil width n, all_isDigit_padded width n, ofDigitChars_padded width n⟩

theorem length_padded_eq_max : (padded width n).length = max width (digits n).length := by
  rw [padded, List.length_append, List.length_replicate]
  omega

end Padded

theorem length_padded {width n : Nat} (hwidth : 0 < width) (h : n < 10 ^ width) :
    (padded width n).length = width := by
  rw [length_padded_eq_max]
  exact Nat.max_eq_left (length_digits_le hwidth h)

end Snowflake.Decimal
