import Snowflake.Json.Fault

/-!
Values that are one of a few names, in JSON: the name as a text, or a map from the name to null.
-/

namespace Snowflake.Json.Variant

variable {α : Type}

/-- The value with the name `name`. -/
def named (all : List α) (nameOf : α → String) (name : String) : Except Mismatch α :=
  match all.find? fun a => nameOf a == name with
  | some a => .ok a
  | none => .error (.unknownVariant name (all.map nameOf))

def asUnit : Head → Except Mismatch Unit
  | .null => .ok ()
  | head => .error (.wrongType head "unit")

def read (all : List α) (nameOf : α → String) : Reader α := fun cs => do
  let (head, cs) ← wellFormed (Head.read? cs)
  match head with
  | .text name => do pure (← agreeing (named all nameOf name), cs)
  | .map => do
      let (name, cs) ← key cs
      let a ← agreeing (named all nameOf name)
      let (_, cs) ← scalar asUnit (← mark ':' cs)
      pure (a, ← mark '}' cs)
  | _ => throw .malformed

end Snowflake.Json.Variant
