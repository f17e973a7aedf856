/-!
Floating point numbers of 64 bits, as far as reading a decimal numeral needs them. The value of a
magnitude is `significand * 2 ^ exponent`; `round` gives the magnitude nearest to a quotient, and of
two as near the one with an even significand.
-/

namespace Snowflake

/-- Either the significand has all its 53 bits, or the exponent is the least, -1074. -/
structure Magnitude where
  significand : Nat
  exponent : Int
  deriving DecidableEq

structure Binary64 where
  negative : Bool
  magnitude : Magnitude
  deriving DecidableEq

namespace Magnitude

def zero : Magnitude :=
  ⟨0, -1074⟩

/-- The numerator and the denominator of `n * 2 ^ e`. -/
def ratio (n : Nat) (e : Int) : Nat × Nat :=
  (n * Nat.pow 2 e.toNat, Nat.pow 2 (-e).toNat)

/-- The largest `k` with `2 ^ k ≤ num / den`, for `num` and `den` that are not zero. -/
def log2 (num den : Nat) : Int :=
  let k : Int := (num.log2 : Int) - den.log2
  let (low, one) := ratio den k
  if low ≤ num * one then k else k - 1

/-- A quotient rounded to the nearest whole number, halves to the even one. -/
def roundToEven (num den : Nat) : Nat :=
  let q := num / den
  let r := num % den
  if 2 * r < den then q
  else if den < 2 * r then q + 1
  else q + q % 2

/-- The magnitude nearest to `num / den`, and `none` if that is past the greatest finite one. -/
def round (num den : Nat) : Option Magnitude :=
  if num = 0 then some zero
  else
    let e := max (log2 num den - 52) (-1074)
    let (up, down) := ratio 1 e
    let q := roundToEven (num * down) (den * up)
    let (q, e) := if q = 0x20000000000000 then (0x10000000000000, e + 1) else (q, e)
    if e ≤ 971 then some ⟨q, e⟩ else none

def ofNat (n : Nat) : Option Magnitude :=
  round n 1

def mul (a b : Magnitude) : Option Magnitude :=
  let (num, den) := ratio (a.significand * b.significand) (a.exponent + b.exponent)
  round num den

def div (a b : Magnitude) : Option Magnitude :=
  let (num, den) := ratio a.significand (a.exponent - b.exponent)
  round num (den * b.significand)

def powerOfTen (k : Nat) : Option Magnitude :=
  ofNat (Nat.pow 10 k)

/-- The exponent of the greatest power of ten that is finite. -/
def greatestPower : Nat :=
  308

/-- Divided so many times by `divisor`, each quotient rounded. A quotient that has come down to zero
stays there. -/
def divRepeatedly (divisor : Magnitude) : (times : Nat) → Magnitude → Option Magnitude
  | 0, m => some m
  | times + 1, m =>
      if m.significand = 0 then some m else (m.div divisor).bind (divRepeatedly divisor times)

/-- `m / 10 ^ k`, by the greatest finite power of ten as often as it goes and by the power that is
left, which is not `10 ^ 0` unless `k` is zero. -/
def divPowerOfTen (m : Magnitude) (k : Nat) : Option Magnitude := do
  let times := (k - 1) / greatestPower
  let greatest ← powerOfTen greatestPower
  let last ← powerOfTen (k - greatestPower * times)
  (← divRepeatedly greatest times m).div last

/-- `n * 10 ^ k`, the number and the power rounded first and their product or quotient after. -/
def ofDecimal (n : Nat) (k : Int) : Option Magnitude := do
  let m ← ofNat n
  if k < 0 then m.divPowerOfTen k.natAbs
  else if k ≤ greatestPower then m.mul (← powerOfTen k.toNat)
  else if m.significand = 0 then some m
  else none

end Magnitude

end Snowflake
