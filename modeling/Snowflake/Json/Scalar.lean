import Snowflake.Json.Fault

/-!
What to make of a scalar: a text, or an integer of a certain width.
-/

namespace Snowflake.Json.Scalar

/-- A text that `read` makes something of. -/
def text {α : Type} (expected : String) (read : String → Except String α) :
    Head → Except Mismatch α
  | .text s => (read s).mapError .rejected
  | head => .error (.wrongType head expected)

/-- A text of any kind. -/
def string : Head → Except Mismatch String :=
  text "a string" .ok

/-- An integer from zero to `max`. -/
def bounded (max : Nat) (expected : String) : Head → Except Mismatch Nat
  | .number (.integer n) =>
      if 0 ≤ n ∧ n ≤ max then .ok n.toNat else .error (.wrongInteger n expected)
  | head => .error (.wrongType head expected)

def byte (head : Head) : Except Mismatch UInt8 :=
  (bounded 255 "u8" head).map UInt8.ofNat

def word (head : Head) : Except Mismatch UInt64 :=
  (bounded 18446744073709551615 "u64" head).map UInt64.ofNat

/-- Null stands for no value. -/
def optional {α : Type} (f : Head → Except Mismatch α) : Head → Except Mismatch (Option α)
  | .null => .ok none
  | head => (f head).map some

end Snowflake.Json.Scalar
