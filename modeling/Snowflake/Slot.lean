import Snowflake.Text.Decimal
import Snowflake.Text.Record

/-!
The slot of a generator: its worker and its process, a number of five bits each. Two generators with
different slots never make the same identifier.
-/

namespace Snowflake

inductive SlotPart where
  | worker
  | process
  deriving DecidableEq

def SlotPart.fieldName : SlotPart → String
  | .worker => "worker_id"
  | .process => "process_id"

def SlotPart.typeName : SlotPart → String
  | .worker => "WorkerId"
  | .process => "ProcessId"

structure SlotId (part : SlotPart) where
  index : Fin 32
  deriving DecidableEq

abbrev WorkerId := SlotId .worker

abbrev ProcessId := SlotId .process

/-- A number offered for a part of a slot that is too large for it. -/
structure SlotOutOfRange where
  part : SlotPart
  value : UInt64
  max : UInt64
  deriving DecidableEq

namespace SlotOutOfRange

def message (e : SlotOutOfRange) : String :=
  e.part.fieldName ++ " " ++ Decimal.text e.value.toNat ++ " is out of range (max = " ++
    Decimal.text e.max.toNat ++ ")"

def describe (e : SlotOutOfRange) : String :=
  Record.line "PartOutOfRange"
    [("field", "\"" ++ e.part.fieldName ++ "\""), ("value", Decimal.text e.value.toNat),
      ("max", Decimal.text e.max.toNat)]

end SlotOutOfRange

namespace SlotId

variable {part : SlotPart}

def bits : Nat := 5

def max : UInt8 := 31

def zero : SlotId part :=
  ⟨0⟩

def ofByte? (b : UInt8) : Option (SlotId part) :=
  if h : b.toNat < 32 then some ⟨⟨b.toNat, h⟩⟩ else none

def ofWord (w : UInt64) : Except SlotOutOfRange (SlotId part) :=
  if h : w.toNat < 32 then .ok ⟨⟨w.toNat, h⟩⟩ else .error ⟨part, w, max.toUInt64⟩

def ofByte (b : UInt8) : Except SlotOutOfRange (SlotId part) :=
  ofWord b.toUInt64

/-- The slot number in the low five bits of a word. -/
def ofLowBits (w : UInt64) : SlotId part :=
  ⟨⟨(w &&& 31).toNat, by
    rw [UInt64.toNat_and]
    exact Nat.and_lt_two_pow w.toNat (n := 5) (by decide)⟩⟩

def toNat (s : SlotId part) : Nat :=
  s.index

def toWord (s : SlotId part) : UInt64 :=
  UInt64.ofNat s.index

def text (s : SlotId part) : String :=
  Decimal.text s.toNat

def describe (s : SlotId part) : String :=
  Record.wrap part.typeName s.text

theorem toNat_lt (s : SlotId part) : s.toNat < 32 :=
  s.index.isLt

theorem toNat_toWord (s : SlotId part) : s.toWord.toNat = s.toNat := by
  have := s.toNat_lt
  simp only [toNat] at this
  simp [toWord, toNat, UInt64.toNat_ofNat']
  omega

theorem toNat_inj {a b : SlotId part} : a.toNat = b.toNat ↔ a = b := by
  constructor
  · intro h
    cases a
    cases b
    simp only [SlotId.mk.injEq]
    exact Fin.ext h
  · rintro rfl
    rfl

theorem toNat_ofLowBits (w : UInt64) : (ofLowBits w : SlotId part).toNat = w.toNat % 32 := by
  simp only [toNat, ofLowBits, UInt64.toNat_and]
  exact Nat.and_two_pow_sub_one_eq_mod w.toNat 5

end SlotId

end Snowflake
