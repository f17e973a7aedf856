import Snowflake.Slot
import Snowflake.Text.Quoted
import Snowflake.Time.Instant
import Snowflake.Time.Span

/-!
Snowflake identifiers: words of 64 bits that sort by the time they were made. From the top bit down
a flake holds 42 bits of timestamp in milliseconds, 5 of worker, 5 of process and 12 of sequence.
-/

namespace Snowflake

structure Flake where
  word : UInt64
  deriving DecidableEq

structure Fields where
  timestamp : UInt64
  worker : WorkerId
  process : ProcessId
  sequence : UInt16
  deriving DecidableEq

structure InvalidFlake where
  input : String
  deriving DecidableEq

namespace Flake

def timestampMask : UInt64 := 0x3FFFFFFFFFF

def slotMask : UInt64 := 0x1F

def sequenceMask : UInt64 := 0xFFF

def timestampShift : UInt64 := 22

def workerShift : UInt64 := 17

def processShift : UInt64 := 12

def sequenceShift : UInt64 := 0

def maxTimestamp : UInt64 := timestampMask

def maxSequence : UInt16 := sequenceMask.toUInt16

/-- The flake of these fields. Of a timestamp or sequence that is too large the high bits are
lost. -/
def pack (timestamp : UInt64) (worker : WorkerId) (process : ProcessId) (sequence : UInt16) :
    Flake :=
  ⟨(timestamp &&& timestampMask) <<< timestampShift
    ||| (worker.toWord &&& slotMask) <<< workerShift
    ||| (process.toWord &&& slotMask) <<< processShift
    ||| (sequence.toUInt64 &&& sequenceMask) <<< sequenceShift⟩

def timestamp (f : Flake) : UInt64 :=
  f.word >>> timestampShift &&& timestampMask

def worker (f : Flake) : WorkerId :=
  .ofLowBits (f.word >>> workerShift)

def process (f : Flake) : ProcessId :=
  .ofLowBits (f.word >>> processShift)

def sequence (f : Flake) : UInt16 :=
  (f.word >>> sequenceShift &&& sequenceMask).toUInt16

def fields (f : Flake) : Fields :=
  ⟨f.timestamp, f.worker, f.process, f.sequence⟩

def toNat (f : Flake) : Nat :=
  f.word.toNat

instance : Ord Flake := ⟨fun a b => compare a.toNat b.toNat⟩

/-- The bits of a flake as a signed number, the form in which a database column holds it. -/
def toInt64 (f : Flake) : Int64 :=
  f.word.toInt64

def ofInt64 (i : Int64) : Flake :=
  ⟨i.toUInt64⟩

def digits (f : Flake) : List Char :=
  Decimal.digits f.toNat

def text (f : Flake) : String :=
  Decimal.text f.toNat

/-- The text with zeros in front up to `width` characters. -/
def zeroPadded (width : Nat) (f : Flake) : String :=
  String.ofList (Decimal.padded width f.toNat)

/-- With twenty digits, enough for every flake, texts sort as the flakes do. -/
def paddedText (f : Flake) : String :=
  f.zeroPadded 20

def ofDigits? (cs : List Char) : Option Flake :=
  (Decimal.word? cs).map Flake.mk

def read (s : String) : Except InvalidFlake Flake :=
  match ofDigits? s.toList with
  | some f => .ok f
  | none => .error ⟨s⟩

/-- The instant at which the flake was made, for timestamps that count from `epoch`, itself cut to
whole milliseconds. There is none if it is past 64 signed bits of milliseconds or out of the range
of instants. -/
def createdAt? (epoch : Span) (f : Flake) : Option Instant :=
  let millis := epoch.millis + f.timestamp.toNat
  if millis < 0x8000000000000000 then Instant.ofUnixMillis? millis else none

def hex (f : Flake) : String :=
  let digits := Nat.toDigits 16 f.toNat
  String.ofList (List.replicate (16 - digits.length) '0' ++ digits)

def shownFields (f : Flake) : List (String × String) :=
  [("id", f.text ++ " (0x" ++ f.hex ++ ")"), ("timestamp", Decimal.text f.timestamp.toNat),
    ("worker_id", f.worker.text), ("process_id", f.process.text),
    ("sequence", Decimal.text f.sequence.toNat)]

def describe (f : Flake) : String :=
  Record.line "RawSnowflake" f.shownFields

def describeBlock (f : Flake) : String :=
  Record.block "RawSnowflake" f.shownFields

end Flake

namespace Fields

def zero : Fields :=
  ⟨0, .zero, .zero, 0⟩

def pack (p : Fields) : Flake :=
  .pack p.timestamp p.worker p.process p.sequence

def describe (p : Fields) : String :=
  Record.line "SnowflakeParts"
    [("timestamp", Decimal.text p.timestamp.toNat), ("worker_id", p.worker.describe),
      ("process_id", p.process.describe), ("sequence", Decimal.text p.sequence.toNat)]

end Fields

namespace InvalidFlake

def message (e : InvalidFlake) : String :=
  "invalid snowflake " ++ Quoted.quote e.input ++ ": expected a decimal 64-bit unsigned integer"

end InvalidFlake

end Snowflake
