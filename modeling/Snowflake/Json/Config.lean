import Snowflake.Generator.Config
import Snowflake.Json.Record
import Snowflake.Json.Scalar

/-!
Settings of a generator in JSON. Every field may be left out, lengths of time are in whole
milliseconds, and no other fields are allowed.
-/

namespace Snowflake

open Json

namespace SlotId

variable {part : SlotPart}

def ofHead (head : Head) : Except Mismatch (SlotId part) := do
  (ofByte (← Scalar.byte head)).mapError fun e => .rejected e.message

def ofJson (s : String) : Except Fault (SlotId part) :=
  document (scalar ofHead) s

def toJson (s : SlotId part) : List Char :=
  Decimal.digits s.toNat

end SlotId

namespace Config

/-- The fields of a configuration that were given. -/
structure Draft where
  worker : Option WorkerId
  process : Option ProcessId
  maxSkew : Option Span
  waitTimeout : Option Span

namespace Draft

def workerField : RecordField Draft where
  name := "worker_id"
  isSet d := d.worker.isSome
  set head d := do pure { d with worker := some (← SlotId.ofHead head) }

def processField : RecordField Draft where
  name := "process_id"
  isSet d := d.process.isSome
  set head d := do pure { d with process := some (← SlotId.ofHead head) }

def maxSkewField : RecordField Draft where
  name := "max_clock_skew"
  isSet d := d.maxSkew.isSome
  set head d := do pure { d with maxSkew := some (.ofMillis (← Scalar.word head)) }

def waitTimeoutField : RecordField Draft where
  name := "wait_timeout"
  isSet d := d.waitTimeout.isSome
  set head d := do pure { d with waitTimeout := some (clampWait (.ofMillis (← Scalar.word head))) }

/-- The defaults stand where no field was given. -/
def toConfig (d : Draft) : Config :=
  ⟨d.worker.getD .zero, d.process.getD .zero, d.maxSkew.getD defaultMaxSkew,
    d.waitTimeout.getD defaultWaitTimeout⟩

end Draft

def layout : Layout Draft Config where
  name := "GeneratorConfig"
  fields := [Draft.workerField, Draft.processField, Draft.maxSkewField, Draft.waitTimeoutField]
  passesOver := false
  mayEndEarly := true
  blank := ⟨none, none, none, none⟩
  finish d := .ok d.toConfig

def ofJson (s : String) : Except Fault Config :=
  document layout.read s

end Config

end Snowflake
