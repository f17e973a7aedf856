import Snowflake.Json.Extent

/-!
Records in JSON: a map from the names of their fields, in any order, or a sequence of their fields
in the order of the layout. A record is read into a draft, which knows the fields that were given.
-/

namespace Snowflake.Json

structure RecordField (δ : Type) where
  name : String
  isSet : δ → Bool
  set : Head → δ → Except Mismatch δ

/-- `passesOver` says whether a field that is not of the layout is allowed and passed over, and
`mayEndEarly` whether a sequence may leave out fields at its end. -/
structure Layout (δ α : Type) where
  name : String
  fields : List (RecordField δ)
  passesOver : Bool
  mayEndEarly : Bool
  blank : δ
  finish : δ → Except Mismatch α

namespace Layout

variable {δ α : Type}

def expected (l : Layout δ α) : String :=
  "struct " ++ l.name

def expectedLength (l : Layout δ α) : String :=
  l.expected ++ " with " ++ Decimal.text l.fields.length ++
    (if l.fields.length = 1 then " element" else " elements")

def field? (l : Layout δ α) (name : String) : Option (RecordField δ) :=
  l.fields.find? fun f => f.name == name

/-- The member with the key `name`, from after the key on. -/
def member (l : Layout δ α) (name : String) (draft : δ) : Reader δ := fun cs =>
  match l.field? name with
  | some field => do
      if field.isSet draft then throw (.mismatch (.duplicateField name))
      scalar (field.set · draft) (← mark ':' cs)
  | none => do
      if ¬ l.passesOver then
        throw (.mismatch (.unknownField name (l.fields.map RecordField.name)))
      pure (draft, ← wellFormed (Extent.skip? (← mark ':' cs)))

/-- The members of a map up to its brace; `isFirst` says that none was read yet. -/
def members (l : Layout δ α) : (fuel : Nat) → (isFirst : Bool) → δ → Reader δ
  | 0, _, _, _ => .error .malformed
  | fuel + 1, isFirst, draft, cs =>
      match skipBlanks cs with
      | '}' :: rest => .ok (draft, rest)
      | cs => do
          let cs ← if isFirst then pure cs else mark ',' cs
          let (name, cs) ← key cs
          let (draft, cs) ← l.member name draft cs
          members l fuel false draft cs

/-- The elements of a sequence up to its bracket, after `count` of them. -/
def elements (l : Layout δ α) : List (RecordField δ) → (count : Nat) → δ → Reader δ
  | [], _, draft, cs => do pure (draft, ← mark ']' cs)
  | field :: fields, count, draft, cs =>
      match skipBlanks cs with
      | ']' :: rest =>
          if l.mayEndEarly then .ok (draft, rest)
          else .error (.mismatch (.wrongLength count l.expectedLength))
      | cs => do
          let cs ← if count = 0 then pure cs else mark ',' cs
          let (draft, cs) ← scalar (field.set · draft) cs
          elements l fields (count + 1) draft cs

/-- The record at the front of a document. No map has more members than characters. -/
def read (l : Layout δ α) : Reader α := fun cs => do
  let (head, cs) ← wellFormed (Head.read? cs)
  let (draft, cs) ←
    match head with
    | .map => l.members (cs.length + 1) true l.blank cs
    | .sequence => l.elements l.fields 0 l.blank cs
    | head => throw (.mismatch (.wrongType head l.expected))
  pure (← agreeing (l.finish draft), cs)

end Layout

def require {α : Type} (name : String) : Option α → Except Mismatch α
  | none => .error (.missingField name)
  | some a => .ok a

end Snowflake.Json
