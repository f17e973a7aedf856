/-!
Instants of universal time, from the first second of the year -262143 to the last of 262142.

A clock in a leap second reads the second before it with 10⁹ nanoseconds or more. Instants keep such
a reading apart; arithmetic that leaves the leap second lands where the clock reads normally again.
-/

namespace Snowflake

/-- A number of whole seconds whose milliseconds fit 64 signed bits. -/
structure Delay where
  seconds : Nat
  seconds_le : seconds ≤ 9223372036854775
  deriving DecidableEq

def Delay.ofSeconds? (seconds : UInt64) : Option Delay :=
  if h : seconds.toNat ≤ 9223372036854775 then some ⟨seconds.toNat, h⟩ else none

/-- The nanosecond `nanos` of the second `second`, counted from the start of 1970. -/
structure Instant where
  second : Int
  nanos : Nat
  second_ge : -8334601228800 ≤ second
  second_le : second ≤ 8210266876799
  nanos_lt : nanos < 2 * 1000000000
  deriving DecidableEq

namespace Instant

instance : LT Instant :=
  ⟨fun a b => a.second < b.second ∨ a.second = b.second ∧ a.nanos < b.nanos⟩

instance (a b : Instant) : Decidable (a < b) :=
  inferInstanceAs (Decidable (a.second < b.second ∨ a.second = b.second ∧ a.nanos < b.nanos))

theorem lt_def (a b : Instant) :
    a < b ↔ a.second < b.second ∨ a.second = b.second ∧ a.nanos < b.nanos :=
  Iff.rfl

def ofUnix? (second : Int) (nanos : Nat) : Option Instant :=
  if h : (-8334601228800 ≤ second ∧ second ≤ 8210266876799) ∧ nanos < 2 * 1000000000 then
    some ⟨second, nanos, h.1.1, h.1.2, h.2⟩
  else none

/-- The instant so many milliseconds after the start of 1970. -/
def ofUnixMillis? (millis : Int) : Option Instant :=
  ofUnix? (millis / 1000) (millis % 1000 * 1000000).toNat

/-- No reading of a leap second. -/
def IsRegular (i : Instant) : Prop :=
  i.nanos < 1000000000

instance (i : Instant) : Decidable i.IsRegular :=
  inferInstanceAs (Decidable (i.nanos < 1000000000))

/-- Nanoseconds since the start of 1970. -/
def unixNanos (i : Instant) : Int :=
  i.second * 1000000000 + i.nanos

/-- The instant after a delay. A delay of nothing stays in a leap second. -/
def add? (i : Instant) (d : Delay) : Option Instant :=
  if d.seconds = 0 then some i
  else ofUnix? (i.second + d.seconds) (i.nanos % 1000000000)

end Instant

end Snowflake
