import Std.Time.DateTime.Timestamp
import Snowflake.CommandLine.EnvFile
import Snowflake.CommandLine.Run
import Snowflake.Token.Draw

/-!
The program: it reads the command line, the environment and the file `.env`, and runs the command.
-/

namespace Snowflake.Program

open CommandLine

/-- The present instant, and the start of 1970 if the clock is out of the range of instants. -/
def now : IO Instant := do
  let t := (← Std.Time.Timestamp.now).val
  let nanos := t.second.val * 1000000000 + t.nano.val
  pure ((Instant.ofUnix? (nanos / 1000000000) (nanos % 1000000000).toNat).getD
    ⟨0, 0, by decide, by decide, by decide⟩)

def passed (started present : Nat) : Span :=
  let nanos := present - started
  if h : nanos < 0x10000000000000000 * 1000000000 then ⟨nanos, h⟩ else .ofMillis 0xFFFFFFFFFFFFFFFF

/-- A flake, waited for until the timeout of the generator. -/
partial def generate (g : Generator) (started : Nat) :
    IO (Except GenerateError Flake × Generator) := do
  let reading := Clock.reading Epoch.year2025 (← now)
  match g.turn reading (passed started (← IO.monoNanosNow)) with
  | (.ended result, g') => pure (result, g')
  | (.waiting _, g') => generate g' started

def mint (kind : Kind) (count : Nat) (config : Config) : IO (Option CommandError) := do
  let mut g := Generator.new config
  for _ in [0:count] do
    let (result, g') ← generate g (← IO.monoNanosNow)
    g := g'
    match result with
    | .ok flake => IO.println (TaggedId.mk kind flake).text
    | .error e => return some (.mint e)
  return none

/-- A world for the commands that do not use the clock of a generator. -/
def world : IO World := do
  let draws := (Draw.ofBytes (← IO.getRandomBytes 256).toList).toArray
  pure
    { clock := fun _ => 0
      elapsed := fun _ _ => Span.zero
      now := ← now
      draws := fun i => draws.getD i ⟨0, by decide⟩ }

def run (command : Command) (config : Config) : IO (Option CommandError) := do
  match command with
  | .mint kind count => mint kind count.toNat config
  | command =>
      match command.run config (← world) 0 with
      | none => pure none
      | some report =>
          IO.print report.output
          pure report.failure

def environment (names : List String) : IO Environment := do
  let found ← names.mapM fun name => do pure (name, ← IO.getEnv name)
  pure fun name => (found.lookup name).join

/-- The text of the file `.env` in the working directory; it is empty if there is none. -/
def envFile : IO String := do
  try IO.FS.readFile ".env" catch _ => pure ""

/-- The environment as the file completes it. Only names that are known before can be looked up:
those of the settings and those that occur in the file. -/
def fullEnvironment : IO (Except EnvFile.Unsettable Environment) := do
  let file ← envFile
  let names := Flag.settings.filterMap Flag.variableName ++ EnvFile.names file
  pure (EnvFile.load file (← environment names))

def usage : String :=
  "Usage: plume-cli [OPTIONS] <COMMAND>\n\nCommands: mint, decode, token issue, token check\n"

/-- A refusal is told on the standard error, unless it is what the caller asked for. -/
def refuse : Refusal → IO UInt32
  | .usage .displayVersion => do
      IO.print versionLine
      pure 0
  | .usage fault => do
      if fault.exitCode = 0 then IO.print usage else IO.eprint usage
      pure (UInt32.ofNat fault.exitCode)
  | .settings cause => do
      IO.eprint (showError [cause.message])
      pure 1

end Snowflake.Program

open Snowflake Program CommandLine in
def main (args : List String) : IO UInt32 := do
  match ← fullEnvironment with
  | .error e =>
      IO.eprintln e.message
      pure (UInt32.ofNat EnvFile.Unsettable.exitCode)
  | .ok env =>
      match prepare env args with
      | .error refusal => refuse refusal
      | .ok (config, command) =>
          match ← run command config with
          | none => pure 0
          | some e =>
              IO.eprint (showError e.chain)
              pure 1
