import Snowflake.Json.Literal
import Snowflake.Text.Decimal

/-!
Writing JSON: maps with their members in a given order, on one line or with one member a line.
-/

namespace Snowflake.Json

/-- A member of a map: its key and its value as written. -/
abbrev Member : Type :=
  String × List Char

namespace Object

def line (members : List Member) : List Char :=
  let written := members.map fun (name, value) => Literal.write name ++ ':' :: value
  '{' :: (List.intercalate [','] written ++ ['}'])

/-- Two blanks in front of a member and one after its colon. -/
def block (members : List Member) : List Char :=
  let written := members.map fun (name, value) =>
    [' ', ' '] ++ Literal.write name ++ [':', ' '] ++ value
  ['{', '\n'] ++ List.intercalate [',', '\n'] written ++ ['\n', '}']

end Object

/-- A number, and null for none. -/
def writeOptional : Option Nat → List Char
  | none => ['n', 'u', 'l', 'l']
  | some n => Decimal.digits n

end Snowflake.Json
