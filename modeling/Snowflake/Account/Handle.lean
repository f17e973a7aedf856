import Snowflake.Text.Blank
import Snowflake.Text.Quoted
import Snowflake.Text.Record

/-!
Handles, the names of users: one to fifty characters, none of them blank.
-/

namespace Snowflake

/-- The rule that a text breaks, the first of them if it breaks several. -/
inductive HandleFault where
  | empty
  | tooLong
  | blank
  deriving DecidableEq

def HandleFault.message : HandleFault → String
  | .empty => "must not be empty"
  | .tooLong => "longer than 50 characters"
  | .blank => "must not contain whitespace"

structure InvalidHandle where
  input : String
  fault : HandleFault
  deriving DecidableEq

def InvalidHandle.message (e : InvalidHandle) : String :=
  "invalid handle " ++ Quoted.quote e.input ++ ": " ++ e.fault.message

def Handle.maxLength : Nat :=
  50

def Handle.fault? (s : String) : Option HandleFault :=
  if s.toList = [] then some .empty
  else if maxLength < s.toList.length then some .tooLong
  else if s.toList.any Blank.isBlank then some .blank
  else none

structure Handle where
  text : String
  fault?_eq : Handle.fault? text = none
  deriving DecidableEq

namespace Handle

/-- By code points, which is also the order of the bytes in UTF-8. -/
instance : Ord Handle := ⟨fun a b => compare a.text b.text⟩

def read (s : String) : Except InvalidHandle Handle :=
  match h : fault? s with
  | none => .ok ⟨s, h⟩
  | some fault => .error ⟨s, fault⟩

def describe (h : Handle) : String :=
  Record.wrap "UserHandle" (Quoted.quote h.text)

end Handle

end Snowflake
