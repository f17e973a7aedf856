import Snowflake.Text.Quoted
import Snowflake.Text.Record

/-!
The kinds of things that have identifiers, in the order in which their identifiers sort.
-/

namespace Snowflake

inductive Kind where
  | user
  | post
  | authToken
  deriving DecidableEq

/-- A text that names no kind. -/
structure UnknownKind where
  input : String
  deriving DecidableEq

def UnknownKind.message (e : UnknownKind) : String :=
  "unknown kind " ++ Quoted.quote e.input

def UnknownKind.describe (e : UnknownKind) : String :=
  Record.wrap "UnknownKind" (Quoted.quote e.input)

namespace Kind

def all : List Kind :=
  [.user, .post, .authToken]

def name : Kind → String
  | .user => "user"
  | .post => "post"
  | .authToken => "auth-token"

def describe : Kind → String
  | .user => "User"
  | .post => "Post"
  | .authToken => "AuthToken"

def rank : Kind → Nat
  | .user => 0
  | .post => 1
  | .authToken => 2

instance : Ord Kind := ⟨fun a b => compare a.rank b.rank⟩

def ofName? (s : String) : Option Kind :=
  all.find? fun k => k.name == s

def read (s : String) : Except UnknownKind Kind :=
  match ofName? s with
  | some k => .ok k
  | none => .error ⟨s⟩

theorem mem_all (k : Kind) : k ∈ all := by
  cases k <;> decide

theorem name_injective {a b : Kind} (h : a.name = b.name) : a = b := by
  cases a <;> cases b <;> first | rfl | exact absurd h (by decide)

theorem ofName?_eq_some_iff {s : String} {k : Kind} : ofName? s = some k ↔ s = k.name := by
  constructor
  · intro h
    have hname := List.find?_some h
    exact (eq_of_beq hname).symm
  · rintro rfl
    cases k <;> decide

end Kind

end Snowflake
