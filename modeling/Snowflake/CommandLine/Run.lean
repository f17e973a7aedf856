import Snowflake.CommandLine.LooseId
import Snowflake.CommandLine.Settings
import Snowflake.CommandLine.Usage
import Snowflake.Generator.Series
import Snowflake.Json.Config
import Snowflake.Json.Token
import Snowflake.Time.Clock
import Snowflake.Token.Issuer

/-!
Running a command: what it prints, and why it failed.
-/

namespace Snowflake.CommandLine

inductive CommandError where
  | invalidId (cause : InvalidId)
  | invalidOwner (input : String) (cause : InvalidOwner)
  | mint (cause : GenerateError)
  | store (cause : StoreError)
  deriving DecidableEq

def CommandError.chain : CommandError → List String
  | .invalidId cause => [cause.message]
  | .invalidOwner input cause => ["invalid --user " ++ Quoted.quote input, cause.message]
  | .mint cause => ["failed to mint an id", cause.message]
  | .store cause => [cause.message]

/-- What a command leaves behind; one that failed may have printed something before. -/
structure Report where
  output : String
  failure : Option CommandError
  deriving DecidableEq

namespace Report

def success (output : String) : Report :=
  ⟨output, none⟩

def ofExcept : Except CommandError String → Report
  | .ok output => success output
  | .error e => ⟨"", some e⟩

def ofSeries {k : Kind} (s : Series k) : Report :=
  ⟨String.join (s.made.map fun id => id.tagged.text ++ "\n"), s.failure.map .mint⟩

end Report

/-- What a command sees of the world outside: the readings of the clock and the time passed in each
call of the generator, the present instant, and random numbers. -/
structure World where
  clock : Nat → UInt64
  elapsed : Nat → Nat → Span
  now : Instant
  draws : Nat → Fin 62

def showFields (id : LooseId) : String :=
  let kind := id.kind.toList.map fun kind => ("kind", kind.toJson)
  let createdAt :=
    match id.flake.createdAt? Epoch.year2025 with
    | some i => i.toJson
    | none => Json.writeOptional none
  let members :=
    [("id", id.flake.toJson), ("timestamp", Decimal.digits id.flake.timestamp.toNat),
      ("worker_id", id.flake.worker.toJson), ("process_id", id.flake.process.toJson),
      ("sequence", Decimal.digits id.flake.sequence.toNat), ("created_at", createdAt)]
  String.ofList (Json.Object.block (kind ++ members) ++ ['\n'])

def decode (input : String) : Except CommandError String :=
  match LooseId.read input with
  | .error e => .error (.invalidId e)
  | .ok id => .ok (showFields id)

/-- A token issued at `now`. Nothing is stored beyond this command, so that the token conflicts with
no other. -/
def issue (user : String) (ttl : Option UInt64) (now : Instant) (draws : Nat → Fin 62) :
    Except CommandError String := do
  let owner ← (readOwner user).mapError (.invalidOwner user)
  let secret (i : Nat) : Secret := .generate fun j => draws (i * Secret.length + j)
  let issued := Issuer.new.issue MemoryStore.tokenStore secret owner now ttl .empty
  let token ← issued.result.mapError .store
  pure (String.ofList (Json.Object.block token.members ++ ['\n']))

def check (createdAt : Instant) (ttl : Option UInt64) (now : Instant) : String :=
  (TokenStatus.ofWindow createdAt ttl now).name ++ "\n"

/-- There is no report if the generator polls more than `limit` times for one identifier. -/
def Command.run (config : Config) (world : World) (limit : Nat) : Command → Option Report
  | .mint kind count =>
      ((Generator.new config).series kind count.toNat world.clock world.elapsed limit).map .ofSeries
  | .decode id => some (.ofExcept (CommandLine.decode id))
  | .issue user ttl => some (.ofExcept (CommandLine.issue user ttl world.now world.draws))
  | .check createdAt ttl now =>
      some (.success (CommandLine.check createdAt ttl (now.getD world.now)))

inductive Refusal where
  | usage (fault : UsageFault)
  | settings (cause : InvalidSettings)
  deriving DecidableEq

def prepare (env : Environment) (words : List String) : Except Refusal (Config × Command) := do
  let (values, command) ← (readWords env words).mapError .usage
  let config ← (Settings.ofValues env values).toConfig.mapError .settings
  pure (config, command)

def showError : List String → String
  | [] => ""
  | [error] => "Error: " ++ error ++ "\n"
  | error :: causes =>
      "Error: " ++ error ++ "\n\nCaused by:\n" ++
        String.join (causes.map fun cause => "    " ++ cause ++ "\n")

def versionLine : String :=
  "plume-cli 0.1.0\n"

end Snowflake.CommandLine
