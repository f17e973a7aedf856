/-!
Text literals of JSON. A literal is read in three steps: its body is cut off at the closing quote,
the escapes in it become UTF-16 code units, and surrogates among the units are joined in pairs.
Writing escapes quotes, backslashes and control characters only.
-/

namespace Snowflake.Json.Literal

def hexDigit? (c : Char) : Option Nat :=
  if c.isDigit then some (c.toNat - 48)
  else if 'a' ≤ c ∧ c ≤ 'f' then some (c.toNat - 87)
  else if 'A' ≤ c ∧ c ≤ 'F' then some (c.toNat - 55)
  else none

def hexUnit? (a b c d : Char) : Option Nat := do
  pure ((((← hexDigit? a) * 16 + (← hexDigit? b)) * 16 + (← hexDigit? c)) * 16 + (← hexDigit? d))

/-- The character that a backslash and `c` stand for. -/
def shortEscape? (c : Char) : Option Char :=
  if c = '"' then some '"'
  else if c = '\\' then some '\\'
  else if c = '/' then some '/'
  else if c = 'b' then some '\x08'
  else if c = 'f' then some '\x0c'
  else if c = 'n' then some '\n'
  else if c = 'r' then some '\r'
  else if c = 't' then some '\t'
  else none

/-- The body of a literal, from after its opening quote, and what follows its closing quote. -/
def split? : List Char → Option (List Char × List Char)
  | [] => none
  | '"' :: rest => some ([], rest)
  | '\\' :: c :: rest => (split? rest).map fun (body, rest) => ('\\' :: c :: body, rest)
  | c :: rest => (split? rest).map fun (body, rest) => (c :: body, rest)

/-- The code units of a body. A character beyond 16 bits counts as one unit. -/
def units? : List Char → Option (List Nat)
  | [] => some []
  | '\\' :: 'u' :: a :: b :: c :: d :: rest => do
      let unit ← hexUnit? a b c d
      pure (unit :: (← units? rest))
  | '\\' :: c :: rest => do
      let char ← shortEscape? c
      pure (char.toNat :: (← units? rest))
  | c :: rest => if c.toNat < 0x20 ∨ c = '\\' then none else (units? rest).map (c.toNat :: ·)

def isHighSurrogate (unit : Nat) : Bool :=
  0xD800 ≤ unit && unit < 0xDC00

def isLowSurrogate (unit : Nat) : Bool :=
  0xDC00 ≤ unit && unit < 0xE000

/-- The characters of code units; a surrogate without its partner has none. -/
def chars? : List Nat → Option (List Char)
  | [] => some []
  | high :: low :: rest =>
      if isHighSurrogate high then
        if isLowSurrogate low then
          (chars? rest).map (Char.ofNat (0x10000 + (high - 0xD800) * 0x400 + (low - 0xDC00)) :: ·)
        else none
      else if isLowSurrogate high then none
      else (chars? (low :: rest)).map (Char.ofNat high :: ·)
  | [unit] =>
      if isHighSurrogate unit ∨ isLowSurrogate unit then none else some [Char.ofNat unit]

/-- The text of a literal, from after its opening quote, and what follows it. -/
def read? (cs : List Char) : Option (String × List Char) := do
  let (body, rest) ← split? cs
  let text ← chars? (← units? body)
  pure (String.ofList text, rest)

/-- What follows a literal, whether or not its surrogates come in pairs. -/
def skip? (cs : List Char) : Option (List Char) := do
  let (body, rest) ← split? cs
  let _ ← units? body
  pure rest

def escape (c : Char) : List Char :=
  if c = '"' then ['\\', '"']
  else if c = '\\' then ['\\', '\\']
  else if c = '\x08' then ['\\', 'b']
  else if c = '\t' then ['\\', 't']
  else if c = '\n' then ['\\', 'n']
  else if c = '\x0c' then ['\\', 'f']
  else if c = '\r' then ['\\', 'r']
  else if c.toNat < 0x10 then ['\\', 'u', '0', '0', '0', Nat.digitChar c.toNat]
  else if c.toNat < 0x20 then ['\\', 'u', '0', '0', '1', Nat.digitChar (c.toNat - 0x10)]
  else [c]

def write (s : String) : List Char :=
  '"' :: (s.toList.flatMap escape ++ ['"'])

end Snowflake.Json.Literal
