import Snowflake.Text.Decimal

/-!
Lengths of time, in nanoseconds, up to the end of the last second that 64 bits can count.
-/

namespace Snowflake

structure Span where
  nanos : Nat
  nanos_lt : nanos < 0x10000000000000000 * 1000000000
  deriving DecidableEq

namespace Span

instance : LE Span := ⟨fun a b => a.nanos ≤ b.nanos⟩

instance : LT Span := ⟨fun a b => a.nanos < b.nanos⟩

instance (a b : Span) : Decidable (a ≤ b) := Nat.decLe a.nanos b.nanos

instance (a b : Span) : Decidable (a < b) := Nat.decLt a.nanos b.nanos

instance : Max Span := ⟨fun a b => if a ≤ b then b else a⟩

theorem le_def (a b : Span) : a ≤ b ↔ a.nanos ≤ b.nanos :=
  Iff.rfl

theorem lt_def (a b : Span) : a < b ↔ a.nanos < b.nanos :=
  Iff.rfl

def ofMillis (millis : UInt64) : Span :=
  ⟨millis.toNat * 1000000, by have := millis.toNat_lt; omega⟩

def ofParts (seconds : UInt64) (nanos : Fin (1000000000)) : Span :=
  ⟨seconds.toNat * 1000000000 + nanos, by have := seconds.toNat_lt; have := nanos.isLt; omega⟩

def zero : Span :=
  ofMillis 0

def seconds (s : Span) : Nat :=
  s.nanos / 1000000000

/-- The nanoseconds beyond the whole seconds. -/
def subsecond (s : Span) : Nat :=
  s.nanos % 1000000000

/-- The whole milliseconds; what is beyond them is cut off. -/
def millis (s : Span) : Nat :=
  s.nanos / 1000000

/-- The whole milliseconds in a word, and the greatest word for a span that has more. -/
def millisWord (s : Span) : UInt64 :=
  if s.millis < 0x10000000000000000 then UInt64.ofNat s.millis else 0xFFFFFFFFFFFFFFFF

/-- The digits after a decimal point and the point itself, for `part` in units of
`10 ^ -places`; zeros at the end are left out, and so is the point if nothing follows it. -/
def fraction (places part : Nat) : List Char :=
  if part = 0 then []
  else '.' :: ((Decimal.padded places part).reverse.dropWhile (· == '0')).reverse

/-- The span in the largest of the units s, ms, µs and ns of which it has at least one. -/
def text (s : Span) : String :=
  let shown (unit places : Nat) (name : String) : String :=
    Decimal.text (s.nanos / unit) ++ String.ofList (fraction places (s.nanos % unit)) ++ name
  if 1000000000 ≤ s.nanos then shown (1000000000) 9 "s"
  else if 1000000 ≤ s.nanos then shown (1000000) 6 "ms"
  else if 1000 ≤ s.nanos then shown (1000) 3 "µs"
  else shown 1 0 "ns"

end Span

end Snowflake
