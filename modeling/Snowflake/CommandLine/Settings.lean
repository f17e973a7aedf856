import Snowflake.CommandLine.Flag
import Snowflake.Generator.Config

/-!
Settings of a generator as numbers, from flags, the environment and defaults.
-/

namespace Snowflake.CommandLine

/-- Lengths of time are in milliseconds. -/
structure Settings where
  worker : UInt64
  process : UInt64
  maxSkew : UInt64
  waitTimeout : UInt64
  deriving DecidableEq

/-- Why settings make no configuration. -/
inductive InvalidSettings where
  | slot (cause : SlotOutOfRange)
  | zeroWait
  deriving DecidableEq

def InvalidSettings.message : InvalidSettings → String
  | .slot ⟨.worker, value, max⟩ =>
      "PLUME_WORKER_ID: " ++ SlotOutOfRange.message ⟨.worker, value, max⟩
  | .slot ⟨.process, value, max⟩ =>
      "PLUME_PROCESS_ID: " ++ SlotOutOfRange.message ⟨.process, value, max⟩
  | .zeroWait => "PLUME_WAIT_TIMEOUT_MS must be greater than 0"

namespace Settings

/-- A flag wins over its variable in the environment, and that over the default. -/
def ofValues (env : Environment) (vs : Values) : Settings :=
  let value (f : Flag) : Option f.Value := (vs f).or ((f.inEnvironment env).bind f.read)
  ⟨(value .worker).getD (0 : UInt64), (value .process).getD (0 : UInt64),
    (value .maxSkew).getD (5 : UInt64), (value .waitTimeout).getD (1000 : UInt64)⟩

/-- The worker is looked at first, then the process, then the wait. -/
def toConfig (s : Settings) : Except InvalidSettings Config := do
  let worker ← (SlotId.ofWord s.worker).mapError .slot
  let process ← (SlotId.ofWord s.process).mapError .slot
  if s.waitTimeout = 0 then throw .zeroWait
  pure ((Config.ofSlot worker process).withMaxSkew (.ofMillis s.maxSkew)
    |>.withWaitTimeout (.ofMillis s.waitTimeout))

end Settings

end Snowflake.CommandLine
