import Snowflake.Kind
import Snowflake.Text.Decimal
import Snowflake.Time.Timestamp

/-!
The flags of the command line. Each takes one value; four of them stand for settings of the
generator, which may come from a variable of the environment as well.
-/

namespace Snowflake.CommandLine

inductive Flag where
  | worker
  | process
  | maxSkew
  | waitTimeout
  | kind
  | count
  | user
  | ttl
  | createdAt
  | now
  deriving DecidableEq

abbrev Environment : Type :=
  String → Option String

/-- A numeral that fits 64 bits, with or without a plus sign. -/
def readNumber (s : String) : Option UInt64 :=
  match s.toList with
  | '+' :: cs => Decimal.word? cs
  | cs => Decimal.word? cs

namespace Flag

def Value : Flag → Type
  | worker | process | maxSkew | waitTimeout | count | ttl => UInt64
  | kind => Kind
  | user => String
  | createdAt | now => Instant

/-- The flags for settings of the generator, which every command takes. -/
def settings : List Flag :=
  [worker, process, maxSkew, waitTimeout]

def name : Flag → String
  | worker => "worker-id"
  | process => "process-id"
  | maxSkew => "max-clock-skew-ms"
  | waitTimeout => "wait-timeout-ms"
  | kind => "kind"
  | count => "count"
  | user => "user"
  | ttl => "ttl-seconds"
  | createdAt => "created-at"
  | now => "now"

def variableName : Flag → Option String
  | worker => some "PLUME_WORKER_ID"
  | process => some "PLUME_PROCESS_ID"
  | maxSkew => some "PLUME_MAX_CLOCK_SKEW_MS"
  | waitTimeout => some "PLUME_WAIT_TIMEOUT_MS"
  | kind | count | user | ttl | createdAt | now => none

def read : (f : Flag) → String → Option f.Value
  | worker, s | process, s | maxSkew, s | waitTimeout, s | count, s | ttl, s => readNumber s
  | kind, s => Kind.ofName? s
  | user, s => some s
  | createdAt, s | now, s => (Timestamp.read s.toList).toOption

/-- The text that the environment has for a flag. -/
def inEnvironment (f : Flag) (env : Environment) : Option String :=
  f.variableName.bind env

end Flag

abbrev Values : Type :=
  (f : Flag) → Option f.Value

namespace Values

def none : Values :=
  fun _ => .none

def set (vs : Values) (f : Flag) (v : f.Value) : Values :=
  fun g => if h : f = g then some (h ▸ v) else vs g

/-- The values of `inner`, and those of `outer` for flags that `inner` does not have. -/
def or (inner outer : Values) : Values :=
  fun f => (inner f).or (outer f)

end Values

end Snowflake.CommandLine
