import Snowflake.Json.Literal
import Snowflake.Json.Numeral
import Snowflake.Number.Shortest
import Snowflake.Text.Quoted

/-!
The head of a JSON value: the whole value if it is a scalar, otherwise the bracket that opens it.
-/

namespace Snowflake.Json

inductive Head where
  | null
  | boolean (b : Bool)
  | number (n : Number)
  | text (s : String)
  | sequence
  | map
  deriving DecidableEq

def isBlank (c : Char) : Bool :=
  c == ' ' || c == '\n' || c == '\t' || c == '\r'

def skipBlanks (cs : List Char) : List Char :=
  cs.dropWhile isBlank

/-- What follows `word`, and `none` for a text that does not start with it. -/
def after? : (word : List Char) → List Char → Option (List Char)
  | [], cs => some cs
  | _ :: _, [] => none
  | c :: word, d :: cs => if c = d then after? word cs else none

namespace Head

/-- The head of a value and what follows it; there is none if the text holds no value here. -/
def read? (cs : List Char) : Option (Head × List Char) :=
  match skipBlanks cs with
  | [] => none
  | 'n' :: rest => (after? ['u', 'l', 'l'] rest).map (null, ·)
  | 't' :: rest => (after? ['r', 'u', 'e'] rest).map (boolean true, ·)
  | 'f' :: rest => (after? ['a', 'l', 's', 'e'] rest).map (boolean false, ·)
  | '"' :: rest => (Literal.read? rest).map fun (s, rest) => (text s, rest)
  | '[' :: rest => some (sequence, rest)
  | '{' :: rest => some (map, rest)
  | cs => do
      let (numeral, rest) ← Numeral.read? cs
      pure (number (← numeral.value?), rest)

def describe : Head → String
  | null => "null"
  | boolean true => "boolean `true`"
  | boolean false => "boolean `false`"
  | number (.integer n) => "integer `" ++ Decimal.signedText n ++ "`"
  | number (.float x) => "floating point `" ++ x.text ++ "`"
  | text s => "string " ++ Quoted.quote s
  | sequence => "sequence"
  | map => "map"

end Head

end Snowflake.Json
