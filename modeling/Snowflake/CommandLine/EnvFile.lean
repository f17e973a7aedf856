import Snowflake.CommandLine.Flag
import Snowflake.Text.Alphanumeric
import Snowflake.Text.Blank

/-!
Files of settings for the environment, one `NAME=value` a line. Lines may be empty or comments; a
value may be quoted, and then go over several lines, and may refer to variables as `$NAME` or
`${NAME}`. The first line that is none of these ends the reading, and the lines before it count.
-/

namespace Snowflake.CommandLine.EnvFile

/-- Where in its file a character stands: outside quotes, after a backslash or a blank, or within
quotes of either sort. -/
inductive Scan where
  | between
  | escape
  | strong
  | strongEscape
  | weak
  | weakEscape
  | blank
  deriving DecidableEq

/-- The state after a character that is no comment mark. -/
def Scan.next : Scan → Char → Scan
  | between, c =>
      if Blank.isBlank c ∧ c ≠ '\n' ∧ c ≠ '\r' then blank
      else if c = '\\' then escape
      else if c = '"' then weak
      else if c = '\'' then strong
      else between
  | blank, c =>
      if c = '\\' then escape
      else if c = '"' then weak
      else if c = '\'' then strong
      else between
  | escape, _ => between
  | strong, c => if c = '\\' then strongEscape else if c = '\'' then between else strong
  | strongEscape, _ => strong
  | weak, c => if c = '\\' then weakEscape else if c = '"' then between else weak
  | weakEscape, _ => weak

/-- The lines of a text, each with its line feed. -/
def lines (cs : List Char) : List (List Char) :=
  cs.foldr
    (fun c ls =>
      if c = '\n' then [c] :: ls
      else
        match ls with
        | [] => [[c]]
        | l :: ls => (c :: l) :: ls)
    []

/-- The state at the end of a line, or the line up to its comment, which begins after a blank. -/
def scanLine : Scan → (line : List Char) → Scan ⊕ List Char
  | state, [] => .inl state
  | state, c :: cs =>
      if state = .blank ∧ c = '#' then .inr []
      else
        match scanLine (state.next c) cs with
        | .inl state => .inl state
        | .inr line => .inr (c :: line)

def isComment (cs : List Char) : Bool :=
  (Blank.trimStart cs).head? == some '#'

/-- Lines joined as far as quotes reach over their ends; `before` is what was joined so far. A file
that ends within quotes or after a backslash or a blank ends with `none`. -/
def joinLines (state : Scan) (before : List Char) : List (List Char) → List (Option (List Char))
  | [] => if state = .between then [] else [none]
  | l :: ls =>
      if isComment (before ++ l) then joinLines .between [] ls
      else
        match scanLine state l with
        | .inr kept => some (before ++ kept) :: joinLines .between [] ls
        | .inl .between => some (before ++ l) :: joinLines .between [] ls
        | .inl state => joinLines state (before ++ l) ls

/-- How much of a reference to a variable was read: a dollar sign, or a brace after it, and the name
until now, last character first. A name without braces is made of letters and digits, of any
script. -/
inductive Reference where
  | bare (name : List Char)
  | braced (name : List Char)

def Reference.name : Reference → String
  | bare name | braced name => String.ofList name.reverse

/-- What an environment holds for a name that may have an equals sign in it. The entries are of the
form `NAME=VALUE`, and a name is found by the entry that starts with it and an equals sign; with a
sign of its own, that is the entry of the name before the sign, if the value goes on in this way. -/
def lookUp (env : Environment) (name : String) : Option (List Char) :=
  match name.toList.span (· != '=') with
  | (_, []) => (env name).map String.toList
  | (name, _ :: more) => do
      (more ++ ['=']).isPrefixOf? (← env (String.ofList name)).toList

/-- What a reference stands for; a variable that is not set stands for nothing. -/
def Reference.value (env : Environment) (r : Reference) : List Char :=
  (lookUp env r.name).getD []

inductive Mode where
  | plain
  | strong
  | weak
  deriving DecidableEq

def escaped? (c : Char) : Option Char :=
  if c ∈ ['\\', '\'', '"', '$', ' '] then some c
  else if c = 'n' then some '\n'
  else none

/-- A value has ended; only blanks and a comment may follow. -/
def endsHere : List Char → Bool
  | [] => true
  | c :: cs => if c = ' ' ∨ c = '\t' then endsHere cs else c == '#'

/-- The value of a setting as written; there is none if it is not well formed. -/
def value? (env : Environment) : Mode → Option Reference → List Char → Option (List Char)
  | mode, reference, [] =>
      match mode, reference with
      | .plain, none => some []
      | .plain, some (.bare name) => some (Reference.value env (.bare name))
      | _, _ => none
  | .strong, reference, c :: cs =>
      if c = '\'' then value? env .plain reference cs
      else (value? env .strong reference cs).map (c :: ·)
  | mode, some (.braced name), c :: cs =>
      if c = '}' then
        (value? env mode none cs).map (Reference.value env (.braced name) ++ ·)
      else value? env mode (some (.braced (c :: name))) cs
  | mode, some (.bare name), c :: cs =>
      if Alphanumeric.isAlphanumeric c then value? env mode (some (.bare (c :: name))) cs
      else if c = '{' ∧ name = [] then value? env mode (some (.braced [])) cs
      else
        let rest :=
          if c = '$' then value? env mode (some (.bare [])) cs
          else (value? env mode none cs).map (c :: ·)
        rest.map (Reference.value env (.bare name) ++ ·)
  | mode, none, '\\' :: c :: cs => do
      let c ← escaped? c
      (value? env mode none cs).map (c :: ·)
  | mode, none, c :: cs =>
      if c = '$' then value? env mode (some (.bare [])) cs
      else if c = '\\' then if mode = .plain then some [] else none
      else if c = '"' then value? env (if mode = .weak then .plain else .weak) none cs
      else if mode = .weak then (value? env mode none cs).map (c :: ·)
      else if c = '\'' then value? env .strong none cs
      else if c = ' ' ∨ c = '\t' then if endsHere cs then some [] else none
      else (value? env mode none cs).map (c :: ·)

def isKeyStart (c : Char) : Bool :=
  c.isAlpha || c == '_'

def isKeyRest (c : Char) : Bool :=
  c.isAlphanum || c == '_' || c == '.'

/-- A name and what follows it after blanks. -/
def key? : List Char → Option (List Char × List Char)
  | [] => none
  | c :: cs =>
      if isKeyStart c then
        some (c :: cs.takeWhile isKeyRest, Blank.trimStart (cs.dropWhile isKeyRest))
      else none

/-- The name of a setting and what follows its equals sign. `export` before the name is passed over;
it may also be the name. -/
def assignment? (cs : List Char) : Option (List Char × List Char) := do
  let (key, rest) ← key? cs
  match rest with
  | '=' :: rest => some (key, rest)
  | rest =>
      if key = "export".toList then
        match ← key? rest with
        | (key, '=' :: rest) => some (key, rest)
        | _ => none
      else none

/-- What a line sets, and `none` for a line that is not well formed. -/
def setting? (env : Environment) (line : List Char) : Option (Option (String × String)) :=
  let cs := Blank.trimStart (Blank.trimEnd line)
  if cs = [] ∨ isComment cs then some none
  else do
    let (key, rest) ← assignment? cs
    let rest := Blank.trimStart rest
    if rest = [] ∨ isComment rest then some (some (String.ofList key, ""))
    else
      let value ← value? env .plain none rest
      some (some (String.ofList key, String.ofList value))

/-- A variable whose value cannot be set, because a null character ends an entry of the
environment. -/
structure Unsettable where
  name : String
  deriving DecidableEq

namespace Unsettable

def message (e : Unsettable) : String :=
  "cannot set " ++ e.name ++ ": its value holds a null character"

def exitCode : Nat :=
  101

end Unsettable

/-- A variable that is set already stays as it is. -/
def define (env : Environment) (name value : String) : Except Unsettable Environment :=
  if (env name).isSome then .ok env
  else if value.toList.any fun c => c.toNat == 0 then .error ⟨name⟩
  else .ok fun x => if x = name then some value else env x

def loadLines : Environment → List (Option (List Char)) → Except Unsettable Environment
  | env, some line :: rest =>
      match setting? env line with
      | some (some (name, value)) => do loadLines (← define env name value) rest
      | some none => loadLines env rest
      | none => .ok env
  | env, _ => .ok env

/-- The names that occur in a file, both those that a setting may have and those of references
without braces. -/
def names (file : String) : List String :=
  [isKeyRest, Alphanumeric.isAlphanumeric].flatMap fun isPart =>
    (file.toList.splitBy fun c d => isPart c == isPart d).map String.ofList

def load (file : String) (env : Environment) : Except Unsettable Environment :=
  let cs :=
    match file.toList with
    | '\uFEFF' :: cs => cs
    | cs => cs
  loadLines env (joinLines .between [] (lines cs))

end Snowflake.CommandLine.EnvFile
