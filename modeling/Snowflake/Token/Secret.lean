import Snowflake.Text.Quoted
import Snowflake.Text.Record

/-!
Secrets, the texts by which tokens are known: thirty ASCII letters and digits. What is said about a
secret or about a text that is none never depends on the text beyond the rule that it breaks.
-/

namespace Snowflake

inductive InvalidSecret where
  | wrongLength
  | notAlphanumeric
  deriving DecidableEq

def InvalidSecret.reason : InvalidSecret → String
  | .wrongLength => "must be exactly 30 characters"
  | .notAlphanumeric => "must be ASCII alphanumeric"

def InvalidSecret.message (e : InvalidSecret) : String :=
  "invalid token: " ++ e.reason

def InvalidSecret.describe (e : InvalidSecret) : String :=
  Record.line "InvalidToken" [("reason", Quoted.quote e.reason)]

/-- The length of a text in UTF-8. -/
def Secret.byteLength (cs : List Char) : Nat :=
  (cs.map Char.utf8Size).foldr (· + ·) 0

def Secret.length : Nat :=
  30

/-- The length is taken in bytes; all characters of a secret are one byte long. -/
def Secret.fault? (s : String) : Option InvalidSecret :=
  if byteLength s.toList ≠ length then some .wrongLength
  else if s.toList.all Char.isAlphanum then none
  else some .notAlphanumeric

structure Secret where
  text : String
  fault?_eq : Secret.fault? text = none
  deriving DecidableEq

namespace Secret

def read (s : String) : Except InvalidSecret Secret :=
  match h : fault? s with
  | none => .ok ⟨s, h⟩
  | some fault => .error fault

def describe (_ : Secret) : String :=
  "TokenString(<redacted>)"

/-- The characters of secrets: capital letters, small letters, digits. -/
def symbol (i : Fin 62) : Char :=
  if i.val < 26 then Char.ofNat (65 + i.val)
  else if i.val < 52 then Char.ofNat (97 + (i.val - 26))
  else Char.ofNat (48 + (i.val - 52))

theorem utf8Size_symbol (i : Fin 62) : (symbol i).utf8Size = 1 := by
  revert i
  decide

theorem isAlphanum_symbol (i : Fin 62) : (symbol i).isAlphanum = true := by
  revert i
  decide

def drawn (draws : Nat → Fin 62) : List Char :=
  (List.range length).map fun i => symbol (draws i)

theorem byteLength_drawn (draws : Nat → Fin 62) : byteLength (drawn draws) = length := by
  have hsize : (Char.utf8Size ∘ fun i => symbol (draws i)) = fun _ => 1 := by
    funext i
    exact utf8Size_symbol _
  rw [byteLength, drawn, List.map_map, hsize]
  rfl

theorem fault?_drawn (draws : Nat → Fin 62) : fault? (String.ofList (drawn draws)) = none := by
  have hall : (drawn draws).all Char.isAlphanum = true := by
    simp [drawn, isAlphanum_symbol]
  simp only [fault?, String.toList_ofList, byteLength_drawn, hall]
  simp

def generate (draws : Nat → Fin 62) : Secret :=
  ⟨String.ofList (drawn draws), fault?_drawn draws⟩

end Secret

end Snowflake
