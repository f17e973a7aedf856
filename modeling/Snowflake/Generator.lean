import Snowflake.Generator.Config
import Snowflake.Generator.Counter

/-!
Generators of flakes. A generator keeps the counter of the last millisecond it used; one poll takes
one reading of a clock and gives a flake, a time to wait for, or an error.
-/

namespace Snowflake

structure Generator where
  worker : WorkerId
  process : ProcessId
  maxSkew : UInt64
  waitTimeout : Span
  counter : Counter
  deriving DecidableEq

inductive Poll where
  | ready (flake : Flake)
  | pending (yieldUntil : UInt64)
  deriving DecidableEq

inductive GenerateError where
  | clockRegression (last now : UInt64)
  | timestampOverflow (millis : UInt64)
  | waitTimeout (yieldUntil : UInt64)
  deriving DecidableEq

namespace Generator

/-- A generator that goes on where `counter` stopped. Its skew is in whole milliseconds. -/
def resume (config : Config) (counter : Counter) : Generator :=
  ⟨config.worker, config.process, config.maxSkew.millisWord, Config.clampWait config.waitTimeout,
    counter⟩

def new (config : Config) : Generator :=
  resume config .new

def ofSlot (worker : WorkerId) (process : ProcessId) : Generator :=
  new (.ofSlot worker process)

/-- The answer when the clock reads `now` after `last`: a small step back is waited out. -/
def behind (g : Generator) (last now : UInt64) : Except GenerateError Poll :=
  if g.maxSkew < last - now then .error (.clockRegression last now) else .ok (.pending last)

def poll (g : Generator) (now : UInt64) : Except GenerateError Poll × Generator :=
  if Flake.maxTimestamp < now then (.error (.timestampOverflow now), g)
  else
    match g.counter.next now with
    | (.ok sequence, counter) =>
        (.ok (.ready (.pack now g.worker g.process sequence)), { g with counter })
    | (.error (.exhausted timestamp), counter) =>
        (.ok (.pending (timestamp + 1)), { g with counter })
    | (.error (.regression last now), counter) => (g.behind last now, { g with counter })

def describe (g : Generator) : String :=
  Record.openLine "SnowflakeGenerator"
    [("worker_id", g.worker.describe), ("process_id", g.process.describe),
      ("max_clock_skew", Decimal.text g.maxSkew.toNat), ("wait_timeout", g.waitTimeout.text)]

end Generator

namespace GenerateError

/-- The gap in the message is zero for a clock that did not fall back. -/
def message : GenerateError → String
  | .clockRegression last now =>
      "clock moved backwards by " ++ Decimal.text (last.toNat - now.toNat) ++ "ms (last = " ++
        Decimal.text last.toNat ++ ", now = " ++ Decimal.text now.toNat ++ ")"
  | .timestampOverflow millis =>
      "timestamp " ++ Decimal.text millis.toNat ++ " does not fit the snowflake layout"
  | .waitTimeout yieldUntil =>
      "timed out waiting for the clock to reach " ++ Decimal.text yieldUntil.toNat

def describe : GenerateError → String
  | .clockRegression last now =>
      Record.line "ClockRegression"
        [("last_millis", Decimal.text last.toNat), ("now_millis", Decimal.text now.toNat)]
  | .timestampOverflow millis =>
      Record.line "TimestampOverflow" [("millis", Decimal.text millis.toNat)]
  | .waitTimeout yieldUntil =>
      Record.line "WaitTimeout" [("yield_until", Decimal.text yieldUntil.toNat)]

end GenerateError

end Snowflake
