import Snowflake.Number.Binary64
import Snowflake.Text.Decimal

/-!
The shortest decimal of a floating point number: of all decimals that are nearer to it than to any
other number of the format, one with the fewest digits, and of those the nearest.
-/

namespace Snowflake.Magnitude

/-- Whether `x / y`, in units of a quarter of the last place, is nearer to `m` than to its
neighbours. A value halfway belongs to the even significand. Below a power of two the gap is half
as wide. -/
def owns (m : Magnitude) (x y : Nat) : Bool :=
  let low :=
    4 * m.significand - if m.significand = 0x10000000000000 ∧ m.exponent > -1074 then 1 else 2
  let high := 4 * m.significand + 2
  if m.significand % 2 = 0 then low * y ≤ x && x ≤ high * y else low * y < x && x < high * y

/-- The number of digits before the point, or for a value below a tenth the number of zeros after
it, negated. -/
def pointPlace (m : Magnitude) : Int :=
  let (num, den) := ratio m.significand m.exponent
  if den ≤ num then (Decimal.digits (num / den)).length
  else
    Int.negOfNat ((List.range 330).findIdx fun j => den ≤ num * Nat.pow 10 (j + 1))

/-- The multiples of `10 ^ k` just below and above `m` that belong to it, the nearer first and of
two as near the even one. -/
def candidates (m : Magnitude) (k : Int) : List Nat :=
  let (num, den) := ratio m.significand m.exponent
  let (up, down) := (Nat.pow 10 k.toNat, Nat.pow 10 (-k).toNat)
  let (unitNum, unitDen) := ratio 1 (m.exponent - 2)
  let below := num * down / (den * up)
  let rest := num * down % (den * up)
  let belowFirst := 2 * rest < den * up ∨ 2 * rest = den * up ∧ below % 2 = 0
  let nearest := if belowFirst then [below, below + 1] else [below + 1, below]
  nearest.filter fun d => m.owns (d * up * unitDen) (down * unitNum)

/-- A number and a power of ten whose product is the shortest decimal of `m`; seventeen digits are
always enough. -/
def shortest (m : Magnitude) : Nat × Int :=
  let found := (List.range' 1 17).findSome? fun (count : Nat) =>
    let k := m.pointPlace - count
    (m.candidates k).head?.map fun d => (d, k)
  found.getD (m.significand, 0)

/-- The same product with no zeros at the end of the number. -/
def trimmed : (fuel d : Nat) → (k : Int) → Nat × Int
  | 0, d, k => (d, k)
  | fuel + 1, d, k => if d % 10 = 0 ∧ d ≠ 0 then trimmed fuel (d / 10) (k + 1) else (d, k)

/-- The digits of the shortest decimal and the place of the point in them. -/
def shortestDigits (m : Magnitude) : List Char × Int :=
  let (d, k) := m.shortest
  let (d, k) := trimmed 20 d k
  let ds := Decimal.digits d
  (ds, ds.length + k)

end Snowflake.Magnitude

namespace Snowflake.Binary64

/-- Where the point of a number without an exponent may stand: at most five places before the first
digit and at most sixteen after it. -/
def isPositional (place : Int) : Bool :=
  -5 < place && place ≤ 16

def exponentDigits (e : Int) : List Char :=
  (if e < 0 then '-' else '+') :: Decimal.digits e.natAbs

def magnitudeDigits (m : Magnitude) : List Char :=
  if m.significand = 0 then ['0', '.', '0']
  else
    let (ds, place) := m.shortestDigits
    if isPositional place then
      if place ≤ 0 then '0' :: '.' :: (List.replicate (-place).toNat '0' ++ ds)
      else
        let whole := ds.take place.toNat
        let part := ds.drop place.toNat
        whole ++ List.replicate (place.toNat - ds.length) '0' ++
          '.' :: (if part = [] then ['0'] else part)
    else
      match ds with
      | [] => []
      | [d] => d :: 'e' :: exponentDigits (place - 1)
      | d :: ds => d :: '.' :: (ds ++ 'e' :: exponentDigits (place - 1))

def text (x : Binary64) : String :=
  String.ofList ((if x.negative then ['-'] else []) ++ magnitudeDigits x.magnitude)

end Snowflake.Binary64
