/-!
Decimal numerals. A numeral is one or more of the digits 0 to 9; reading allows any number of
leading zeros, writing uses none.
-/

namespace Snowflake.Decimal

/-- The value of a numeral, and `none` for a text that is not one. -/
def value? (cs : List Char) : Option Nat :=
  if cs ≠ [] ∧ cs.all Char.isDigit then some (Nat.ofDigitChars 10 cs 0) else none

/-- The value of a numeral that fits a word of 64 bits. -/
def word? (cs : List Char) : Option UInt64 :=
  match value? cs with
  | some n => if n < 0x10000000000000000 then some (UInt64.ofNat n) else none
  | none => none

def digits (n : Nat) : List Char :=
  Nat.toDigits 10 n

def text (n : Nat) : String :=
  String.ofList (digits n)

def signedText (n : Int) : String :=
  (if n < 0 then "-" else "") ++ text n.natAbs

/-- The digits of `n` with zeros in front, `width` of them at least. -/
def padded (width n : Nat) : List Char :=
  List.replicate (width - (digits n).length) '0' ++ digits n

theorem digits_ne_nil (n : Nat) : digits n ≠ [] :=
  Nat.toDigits_ne_nil

theorem all_isDigit_digits (n : Nat) : (digits n).all Char.isDigit = true := by
  rw [List.all_eq_true]
  intro c hc
  exact Nat.isDigit_of_mem_toDigits (by omega) (by omega) hc

theorem value?_digits (n : Nat) : value? (digits n) = some n := by
  have hvalue : Nat.ofDigitChars 10 (digits n) 0 = n := Nat.ofDigitChars_ten_toDigits
  simp [value?, digits_ne_nil, all_isDigit_digits, hvalue]

theorem word?_digits (n : UInt64) : word? (digits n.toNat) = some n := by
  simp [word?, value?_digits, n.toNat_lt]

end Snowflake.Decimal
