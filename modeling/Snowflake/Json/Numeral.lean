import Snowflake.Number.Binary64
import Snowflake.Text.Decimal

/-!
Numerals of JSON and the numbers they stand for: an integer where one of 64 bits will do, otherwise
a floating point number. Of a long numeral only as many digits count as fit 64 bits.
-/

namespace Snowflake.Json

structure Numeral where
  negative : Bool
  whole : List Char
  fraction : List Char
  exponent : Option Int

/-- Zero with a sign is no integer. -/
inductive Number where
  | integer (n : Int)
  | float (x : Binary64)
  deriving DecidableEq

namespace Numeral

def digits (cs : List Char) : List Char × List Char :=
  (cs.takeWhile Char.isDigit, cs.dropWhile Char.isDigit)

def readSign : List Char → Bool × List Char
  | '-' :: rest => (true, rest)
  | cs => (false, cs)

/-- One digit or more, of which the first is no zero unless it is the only one. -/
def readWhole? (cs : List Char) : Option (List Char × List Char) :=
  match digits cs with
  | ([], _) => none
  | ('0' :: _ :: _, _) => none
  | (ds, rest) => some (ds, rest)

/-- What stands after a point; a numeral without a point has no such digits. -/
def readFraction? : List Char → Option (List Char × List Char)
  | '.' :: rest =>
      match digits rest with
      | ([], _) => none
      | (ds, rest) => some (ds, rest)
  | cs => some ([], cs)

def readPower? (sign : Int) (cs : List Char) : Option (Option Int × List Char) :=
  match digits cs with
  | ([], _) => none
  | (ds, rest) => some (some (sign * Nat.ofDigitChars 10 ds 0), rest)

def readExponent? : List Char → Option (Option Int × List Char)
  | c :: rest =>
      if c = 'e' ∨ c = 'E' then
        match rest with
        | '+' :: rest => readPower? 1 rest
        | '-' :: rest => readPower? (-1) rest
        | rest => readPower? 1 rest
      else some (none, c :: rest)
  | [] => some (none, [])

def read? (cs : List Char) : Option (Numeral × List Char) := do
  let (negative, cs) := readSign cs
  let (whole, cs) ← readWhole? cs
  let (fraction, cs) ← readFraction? cs
  let (exponent, cs) ← readExponent? cs
  pure (⟨negative, whole, fraction, exponent⟩, cs)

/-- The number `n` continued by as many digits as keep it below 2⁶⁴, and how many are left. -/
def accumulate (n : Nat) : List Char → Nat × Nat
  | [] => (n, 0)
  | d :: ds =>
      let next := n * 10 + (d.toNat - 48)
      if next < 0x10000000000000000 then accumulate next ds else (n, ds.length + 1)

/-- The floating point number of a significand and a power of ten; there is none past the greatest
finite one. An exponent of more than 31 bits is past every number but zero, or below them all. -/
def float? (negative : Bool) (significand : Nat) (shift : Int) (exponent : Int) : Option Number :=
  let magnitude :=
    if 0x80000000 ≤ exponent ∧ significand ≠ 0 then none
    else if 0x80000000 ≤ exponent.natAbs then some Magnitude.zero
    else Magnitude.ofDecimal significand (shift + exponent)
  magnitude.map fun m => .float ⟨negative, m⟩

def value? (x : Numeral) : Option Number :=
  let (n, left) := accumulate 0 x.whole
  if x.fraction = [] ∧ x.exponent = none ∧ left = 0 then
    if x.negative = false then some (.integer n)
    else if n = 0 ∨ 0x8000000000000000 < n then float? true n 0 0
    else some (.integer (-n))
  else
    let (significand, unused) := accumulate n x.fraction
    float? x.negative significand (left - (x.fraction.length - unused : Nat)) (x.exponent.getD 0)

end Numeral

end Snowflake.Json
