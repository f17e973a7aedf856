/-!
The diagnostic form of a value: the name of its type and its fields in order.
-/

namespace Snowflake.Record

/-- On one line: `Name { first: 1, second: 2 }`. -/
def line (name : String) (fields : List (String × String)) : String :=
  name ++ " \x7b " ++ ", ".intercalate (fields.map fun (field, value) => field ++ ": " ++ value) ++
    " \x7d"

/-- On one line, with a note that there is more than is shown: `Name { first: 1, .. }`. -/
def openLine (name : String) (fields : List (String × String)) : String :=
  let shown := fields.map fun (field, value) => field ++ ": " ++ value ++ ", "
  name ++ " \x7b " ++ String.join shown ++ ".. \x7d"

/-- One field a line. -/
def block (name : String) (fields : List (String × String)) : String :=
  name ++ " \x7b\n" ++
    String.join (fields.map fun (field, value) => "    " ++ field ++ ": " ++ value ++ ",\n") ++
    "\x7d"

/-- A value around one other: `Name(1)`. -/
def wrap (name value : String) : String :=
  name ++ "(" ++ value ++ ")"

def optional : Option String → String
  | none => "None"
  | some value => wrap "Some" value

end Snowflake.Record
