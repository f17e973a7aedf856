import Snowflake.Flake
import Snowflake.Kind

/-!
Identifiers of one kind, and tagged identifiers, which carry their kind as a value and write it in
front of the number: `post:42`.
-/

namespace Snowflake

structure Id (k : Kind) where
  flake : Flake
  deriving DecidableEq

abbrev UserId := Id .user

abbrev PostId := Id .post

structure TaggedId where
  kind : Kind
  flake : Flake
  deriving DecidableEq

/-- An identifier is of another kind than was asked for. -/
structure KindMismatch where
  expected : Kind
  found : Kind
  deriving DecidableEq

def KindMismatch.message (e : KindMismatch) : String :=
  "expected a " ++ e.expected.name ++ " id, found a " ++ e.found.name ++ " id"

def KindMismatch.describe (e : KindMismatch) : String :=
  Record.line "InvalidKindAssertion"
    [("expected", e.expected.describe), ("found", e.found.describe)]

inductive InvalidId where
  | missingKind (input : String)
  | unknownKind (cause : UnknownKind)
  | invalidFlake (cause : InvalidFlake)
  deriving DecidableEq

def InvalidId.message : InvalidId → String
  | .missingKind input => "expected <kind>:<decimal>, got " ++ Quoted.quote input
  | .unknownKind cause => cause.message
  | .invalidFlake cause => cause.message

def InvalidId.describe : InvalidId → String
  | .missingKind input => Record.wrap "MissingKind" (Quoted.quote input)
  | .unknownKind cause => Record.wrap "UnknownKind" cause.describe
  | .invalidFlake cause =>
      Record.wrap "InvalidSnowflake"
        (Record.line "ParseSnowflakeError" [("input", Quoted.quote cause.input)])

namespace Id

variable {k : Kind}

instance : Ord (Id k) := ⟨fun a b => compare a.flake b.flake⟩

def tagged (id : Id k) : TaggedId :=
  ⟨k, id.flake⟩

def toInt64 (id : Id k) : Int64 :=
  id.flake.toInt64

def ofInt64 (i : Int64) : Id k :=
  ⟨.ofInt64 i⟩

def text (id : Id k) : String :=
  id.flake.text

def read (s : String) : Except InvalidId (Id k) :=
  match Flake.read s with
  | .ok f => .ok ⟨f⟩
  | .error e => .error (.invalidFlake e)

def describe (id : Id k) : String :=
  Record.wrap ("Id<" ++ k.name ++ ">") id.text

end Id

namespace TaggedId

/-- By kind, then by number. -/
instance : Ord TaggedId :=
  ⟨fun a b => (compare a.kind b.kind).then (compare a.flake b.flake)⟩

def text (t : TaggedId) : String :=
  t.kind.name ++ ":" ++ t.flake.text

/-- A text cut at its first colon; there is none if it has no colon. -/
def splitKind? : List Char → Option (List Char × List Char)
  | [] => none
  | c :: cs =>
      if c = ':' then some ([], cs)
      else (splitKind? cs).map fun (kind, rest) => (c :: kind, rest)

/-- The kind is looked at before the number. -/
def read (s : String) : Except InvalidId TaggedId :=
  match splitKind? s.toList with
  | none => .error (.missingKind s)
  | some (kind, number) =>
      match Kind.read (String.ofList kind) with
      | .error e => .error (.unknownKind e)
      | .ok k =>
          match Flake.read (String.ofList number) with
          | .error e => .error (.invalidFlake e)
          | .ok f => .ok ⟨k, f⟩

def ofKind (k : Kind) (t : TaggedId) : Except KindMismatch (Id k) :=
  if t.kind = k then .ok ⟨t.flake⟩ else .error ⟨k, t.kind⟩

def describe (t : TaggedId) : String :=
  Record.line "AnyId" [("kind", t.kind.describe), ("raw", t.flake.describe)]

end TaggedId

end Snowflake
