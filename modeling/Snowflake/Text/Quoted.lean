import Snowflake.Text.Combining
import Snowflake.Text.Printable

/-!
Quoted text, the form in which a message shows a text that it was given: between double quotes,
on one line, and with every character that would not be seen on its own written as an escape.
-/

namespace Snowflake.Quoted

/-- A character that stands for itself. Printable ASCII comes first because it is the usual case
and in neither table. -/
def isPlain (c : Char) : Bool :=
  if c.toNat < 0x7F then 0x20 ≤ c.toNat
  else Printable.isPrintable c && !Combining.isCombining c

def escape (c : Char) : List Char :=
  if c = '"' then ['\\', '"']
  else if c = '\\' then ['\\', '\\']
  else if c = '\t' then ['\\', 't']
  else if c = '\n' then ['\\', 'n']
  else if c = '\r' then ['\\', 'r']
  else if c.toNat = 0 then ['\\', '0']
  else if isPlain c then [c]
  else ['\\', 'u', '{'] ++ Nat.toDigits 16 c.toNat ++ ['}']

def quote (s : String) : String :=
  String.ofList ('"' :: (s.toList.flatMap escape ++ ['"']))

end Snowflake.Quoted
