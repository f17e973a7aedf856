import Snowflake.CommandLine.Command

/-!
Reading the words of a command line. Words are read one level after the other. The value of a flag
is looked at only when the word after it is read or the level ends, so that a fault in a later word
may be reported before one in a value.
-/

namespace Snowflake.CommandLine

/-- Why no command is run. Two of these are what the caller asked for. -/
inductive UsageFault where
  | displayHelp
  | displayVersion
  | helpForMissingCommand
  | missingCommand
  | missingRequired
  | unknownArgument
  | unknownCommand
  | missingValue
  | invalidValue
  | unwantedValue
  | repeatedFlag
  deriving DecidableEq

def UsageFault.exitCode : UsageFault → Nat
  | .displayHelp | .displayVersion => 0
  | _ => 2

inductive Word where
  | escape
  | long (name : String) (value : Option String)
  | short (letter : Char)
  | plain (text : String)
  deriving DecidableEq

/-- A lone hyphen is a plain word. Of several letters after a hyphen the first decides. -/
def Word.ofString (s : String) : Word :=
  match s.toList with
  | ['-', '-'] => escape
  | '-' :: '-' :: cs =>
      let name := cs.takeWhile (· != '=')
      let value :=
        match cs.dropWhile (· != '=') with
        | _ :: value => some (String.ofList value)
        | [] => none
      long (String.ofList name) value
  | '-' :: c :: _ => short c
  | _ => plain s

/-- What was read at a level. `pending` is the last flag, whose value was not looked at yet or did
not come yet. `isEscaped` says that all further words are plain. -/
structure Progress where
  values : Values
  word : Option String
  pending : Option (Flag × Option String)
  isEscaped : Bool

namespace Progress

def start : Progress :=
  ⟨.none, none, none, false⟩

def awaiting? (p : Progress) : Option Flag :=
  match p.pending with
  | some (flag, none) => some flag
  | _ => none

def settle (p : Progress) : Except UsageFault Progress :=
  match p.pending with
  | none => .ok p
  | some (_, none) => .error .missingValue
  | some (flag, some text) =>
      if (p.values flag).isSome then .error .repeatedFlag
      else
        match flag.read text with
        | none => .error .invalidValue
        | some v => .ok { p with values := p.values.set flag v, pending := none }

/-- A flag met; a value written with it is taken at once. -/
def meet (p : Progress) (flag : Flag) (value : Option String) : Except UsageFault Progress := do
  let p ← p.settle
  let p := { p with pending := some (flag, value) }
  if value.isSome then p.settle else pure p

end Progress

namespace Level

/-- Whether the words after `help` name a command, and commands of it. -/
def isHelpTopic : Level → List String → Bool
  | _, [] => true
  | l, word :: words =>
      match l.command? word with
      | some inner => isHelpTopic inner words
      | none => l.isGroup && word == "help" && words == []

def isCommandWord (l : Level) (word : String) : Bool :=
  (l.command? word).isSome || l.isGroup && word == "help"

def takeWord (l : Level) (p : Progress) (word : String) : Except UsageFault Progress :=
  if l.takesWord ∧ p.word = none then do
    pure { (← p.settle) with word := some word }
  else if p.isEscaped ∧ l.isCommandWord word then .error .unknownArgument
  else if l.isGroup then .error .unknownCommand
  else .error .unknownArgument

def takeLong (l : Level) (p : Progress) (name : String) (value : Option String) :
    Except UsageFault Progress :=
  let answer (fault : UsageFault) : Except UsageFault Progress := do
    if value.isSome then throw .unwantedValue
    let _ ← p.settle
    throw fault
  match l.flag? name with
  | some flag => p.meet flag value
  | none =>
      if name = "help" then answer .displayHelp
      else if name = "version" ∧ l = .program then answer .displayVersion
      else .error .unknownArgument

def takeShort (l : Level) (p : Progress) (letter : Char) : Except UsageFault Progress :=
  let answer (fault : UsageFault) : Except UsageFault Progress := do
    let _ ← p.settle
    throw fault
  if letter = 'h' then answer .displayHelp
  else if letter = 'V' ∧ l = .program then answer .displayVersion
  else .error .unknownArgument

def take (l : Level) (p : Progress) (word : String) : Except UsageFault Progress :=
  if p.isEscaped then l.takeWord p word
  else
    match Word.ofString word with
    | .escape => .ok { p with isEscaped := true }
    | .long name value => l.takeLong p name value
    | .short letter => l.takeShort p letter
    | .plain text =>
        match p.awaiting? with
        | some flag => .ok { p with pending := some (flag, some text) }
        | none => l.takeWord p text

/-- The values given at a level, when its words are at an end. A variable of the environment is
looked at, and may be invalid, wherever its flag is absent. -/
def close (l : Level) (env : Environment) (p : Progress) : Except UsageFault Progress := do
  let p ← p.settle
  let isInvalid (f : Flag) : Bool :=
    (p.values f).isNone && ((f.inEnvironment env).map fun text => (f.read text).isNone).getD false
  if l.flags.any isInvalid then throw .invalidValue
  pure p

def finish (l : Level) (env : Environment) (p : Progress) :
    Except UsageFault (Values × Command) := do
  let p ← l.close env p
  if l.isGroup then
    if l.flags.any fun f => (p.values f).isSome || (f.inEnvironment env).isSome then
      throw .missingCommand
    else throw .helpForMissingCommand
  match l.toCommand? p.values p.word with
  | none => throw .missingRequired
  | some command => pure (p.values, command)

/-- A level within `l` has been read, to the end of the words; what is left is to close `l`, the
values of which count less. -/
def enclose (l : Level) (env : Environment) (p : Progress)
    (inner : Except UsageFault (Values × Command)) : Except UsageFault (Values × Command) := do
  let (values, command) ← inner
  let p ← l.close env p
  pure (values.or p.values, command)

def read (env : Environment) : List String → Level → Progress → Except UsageFault (Values × Command)
  | [], l, p => l.finish env p
  | word :: words, l, p =>
      if p.isEscaped ∨ p.awaiting?.isSome then do read env words l (← l.take p word)
      else
        match l.command? word with
        | some inner => l.enclose env p (read env words inner .start)
        | none =>
            if l.isGroup ∧ word = "help" then
              .error (if l.isHelpTopic words then .displayHelp else .unknownCommand)
            else do read env words l (← l.take p word)

end Level

def readWords (env : Environment) (words : List String) : Except UsageFault (Values × Command) :=
  Level.read env words .program .start

end Snowflake.CommandLine
