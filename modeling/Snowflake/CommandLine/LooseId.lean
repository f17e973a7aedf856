import Snowflake.Id

/-!
Identifiers as people write them on a command line: with their kind in front or without.
-/

namespace Snowflake.CommandLine

structure LooseId where
  kind : Option Kind
  flake : Flake
  deriving DecidableEq

/-- Why a text names no user. -/
inductive InvalidOwner where
  | invalidId (cause : InvalidId)
  | notAUser (cause : KindMismatch)
  deriving DecidableEq

def InvalidOwner.message : InvalidOwner → String
  | .invalidId cause => cause.message
  | .notAUser cause => cause.message

namespace LooseId

/-- A text with a colon is a tagged identifier. -/
def read (s : String) : Except InvalidId LooseId :=
  if ':' ∈ s.toList then
    (TaggedId.read s).map fun t => ⟨some t.kind, t.flake⟩
  else
    match Flake.read s with
    | .ok f => .ok ⟨none, f⟩
    | .error e => .error (.invalidFlake e)

/-- An identifier without a kind may be that of a user. -/
def toUser (id : LooseId) : Except KindMismatch UserId :=
  match id.kind with
  | none => .ok ⟨id.flake⟩
  | some kind => (TaggedId.mk kind id.flake).ofKind .user

end LooseId

def readOwner (s : String) : Except InvalidOwner UserId :=
  match LooseId.read s with
  | .error e => .error (.invalidId e)
  | .ok id => id.toUser.mapError .notAUser

end Snowflake.CommandLine
