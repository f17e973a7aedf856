import Snowflake.Slot
import Snowflake.Time.Span

/-!
The settings of a generator.
-/

namespace Snowflake

/-- `maxSkew` is how far the clock may fall back before that is an error, and `waitTimeout` how long
a call may wait for the clock. -/
structure Config where
  worker : WorkerId
  process : ProcessId
  maxSkew : Span
  waitTimeout : Span
  deriving DecidableEq

namespace Config

def defaultMaxSkew : Span :=
  .ofMillis 5

def defaultWaitTimeout : Span :=
  .ofMillis 1000

/-- A millisecond, the least wait that outlasts an exhausted millisecond. -/
def minWaitTimeout : Span :=
  .ofMillis 1

def ofSlot (worker : WorkerId) (process : ProcessId) : Config :=
  ⟨worker, process, defaultMaxSkew, defaultWaitTimeout⟩

def default : Config :=
  ofSlot .zero .zero

def clampWait (wait : Span) : Span :=
  if wait < minWaitTimeout then minWaitTimeout else wait

def withWorker (worker : WorkerId) (c : Config) : Config :=
  { c with worker }

def withProcess (process : ProcessId) (c : Config) : Config :=
  { c with process }

def withMaxSkew (maxSkew : Span) (c : Config) : Config :=
  { c with maxSkew }

def withWaitTimeout (waitTimeout : Span) (c : Config) : Config :=
  { c with waitTimeout := clampWait waitTimeout }

def describe (c : Config) : String :=
  Record.line "GeneratorConfig"
    [("worker_id", c.worker.describe), ("process_id", c.process.describe),
      ("max_clock_skew", c.maxSkew.text), ("wait_timeout", c.waitTimeout.text)]

end Config

end Snowflake
