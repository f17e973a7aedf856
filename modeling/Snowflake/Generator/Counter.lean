import Snowflake.Flake

/-!
The sequence counter of a generator: it numbers the identifiers of one millisecond from zero on.
-/

namespace Snowflake

structure Counter where
  last : Option UInt64
  sequence : UInt16
  deriving DecidableEq

/-- Why a counter has no number to give. -/
inductive CounterError where
  | exhausted (timestamp : UInt64)
  | regression (last now : UInt64)
  deriving DecidableEq

namespace Counter

def new : Counter :=
  ⟨none, 0⟩

/-- The counter that gave `sequence` last, in the millisecond `last`. A sequence past the greatest
counts as the greatest. -/
def resume (last : UInt64) (sequence : UInt16) : Counter :=
  ⟨some last, if Flake.maxSequence < sequence then Flake.maxSequence else sequence⟩

/-- The next number in the millisecond `now`. -/
def next (c : Counter) (now : UInt64) : Except CounterError UInt16 × Counter :=
  match c.last with
  | none => (.ok 0, ⟨some now, 0⟩)
  | some last =>
      if last < now then (.ok 0, ⟨some now, 0⟩)
      else if now < last then (.error (.regression last now), c)
      else if c.sequence < Flake.maxSequence then
        (.ok (c.sequence + 1), ⟨c.last, c.sequence + 1⟩)
      else (.error (.exhausted now), c)

end Counter

namespace CounterError

def message : CounterError → String
  | .exhausted timestamp => "sequence exhausted for millisecond " ++ Decimal.text timestamp.toNat
  | .regression last now =>
      "clock regression from " ++ Decimal.text last.toNat ++ " to " ++ Decimal.text now.toNat

def describe : CounterError → String
  | .exhausted timestamp => Record.line "Exhausted" [("timestamp", Decimal.text timestamp.toNat)]
  | .regression last now =>
      Record.line "ClockRegression"
        [("last", Decimal.text last.toNat), ("now", Decimal.text now.toNat)]

end CounterError

end Snowflake
