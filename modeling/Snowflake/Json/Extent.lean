import Snowflake.Json.Fault

/-!
The extent of a JSON value: where it ends. A value that nobody asks for is passed over; it has to be
well formed, but its numbers may be of any size.
-/

namespace Snowflake.Json.Extent

mutual

/-- What follows a value. -/
def value : (fuel : Nat) → List Char → Option (List Char)
  | 0, _ => none
  | fuel + 1, cs =>
      match skipBlanks cs with
      | [] => none
      | 'n' :: rest => after? ['u', 'l', 'l'] rest
      | 't' :: rest => after? ['r', 'u', 'e'] rest
      | 'f' :: rest => after? ['a', 'l', 's', 'e'] rest
      | '"' :: rest => Literal.skip? rest
      | '[' :: rest =>
          match skipBlanks rest with
          | ']' :: rest => some rest
          | rest => elements fuel rest
      | '{' :: rest =>
          match skipBlanks rest with
          | '}' :: rest => some rest
          | rest => members fuel rest
      | cs => (Numeral.read? cs).map Prod.snd

/-- What follows the bracket that closes a sequence, from before an element on. -/
def elements : (fuel : Nat) → List Char → Option (List Char)
  | 0, _ => none
  | fuel + 1, cs => do
      match skipBlanks (← value fuel cs) with
      | ']' :: rest => some rest
      | ',' :: rest => elements fuel rest
      | _ => none

/-- What follows the brace that closes a map, from before a key on. -/
def members : (fuel : Nat) → List Char → Option (List Char)
  | 0, _ => none
  | fuel + 1, cs => do
      let named ← Literal.skip? (← after? ['"'] (skipBlanks cs))
      match skipBlanks (← value fuel (← after? [':'] (skipBlanks named))) with
      | '}' :: rest => some rest
      | ',' :: rest => members fuel rest
      | _ => none

end

/-- Every step takes a character or goes on with a value, so that fuel for two steps a character
lasts. -/
def skip? (cs : List Char) : Option (List Char) :=
  value (2 * cs.length + 2) cs

end Snowflake.Json.Extent
