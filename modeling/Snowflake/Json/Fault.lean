import Snowflake.Json.Head

/-!
What can be wrong with a JSON document: its form, or what it says.
-/

namespace Snowflake.Json

/-- A well formed document that is not of the form asked for. `expected` describes that form. -/
inductive Mismatch where
  | wrongType (found : Head) (expected : String)
  | wrongInteger (found : Int) (expected : String)
  | wrongLength (length : Nat) (expected : String)
  | missingField (name : String)
  | duplicateField (name : String)
  | unknownField (name : String) (known : List String)
  | unknownVariant (name : String) (known : List String)
  | rejected (message : String)
  deriving DecidableEq

inductive Fault where
  | malformed
  | mismatch (cause : Mismatch)
  deriving DecidableEq

/-- A reader takes a value from the front of a document and leaves the rest. -/
abbrev Reader (α : Type) : Type :=
  List Char → Except Fault (α × List Char)

namespace Mismatch

def marked (name : String) : String :=
  "`" ++ name ++ "`"

def oneOf (names : List String) : String :=
  "expected one of " ++ ", ".intercalate (names.map marked)

def message : Mismatch → String
  | wrongType found expected => "invalid type: " ++ found.describe ++ ", expected " ++ expected
  | wrongInteger found expected =>
      "invalid value: " ++ (Head.number (.integer found)).describe ++ ", expected " ++ expected
  | wrongLength length expected =>
      "invalid length " ++ Decimal.text length ++ ", expected " ++ expected
  | missingField name => "missing field " ++ marked name
  | duplicateField name => "duplicate field " ++ marked name
  | unknownField name known => "unknown field " ++ marked name ++ ", " ++ oneOf known
  | unknownVariant name known => "unknown variant " ++ marked name ++ ", " ++ oneOf known
  | rejected message => message

end Mismatch

/-- What an optional step found, or a malformed document. -/
def wellFormed {α : Type} : Option α → Except Fault α
  | none => .error .malformed
  | some a => .ok a

def agreeing {α : Type} : Except Mismatch α → Except Fault α
  | .error cause => .error (.mismatch cause)
  | .ok a => .ok a

def mark (c : Char) (cs : List Char) : Except Fault (List Char) :=
  wellFormed (after? [c] (skipBlanks cs))

def key : Reader String := fun cs => do
  wellFormed (Literal.read? (← mark '"' cs))

/-- A scalar; `f` says what to make of its head. -/
def scalar {α : Type} (f : Head → Except Mismatch α) : Reader α := fun cs => do
  let (head, rest) ← wellFormed (Head.read? cs)
  pure (← agreeing (f head), rest)

/-- A whole document; after its value there may be blanks only. -/
def document {α : Type} (read : Reader α) (s : String) : Except Fault α := do
  let (a, rest) ← read s.toList
  if skipBlanks rest = [] then pure a else throw .malformed

end Snowflake.Json
