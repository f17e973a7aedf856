import Snowflake.Text.Blank
import Snowflake.Text.Decimal
import Snowflake.Time.Calendar
import Snowflake.Time.Instant

/-!
Timestamps, the text form of instants after RFC 3339. Writing gives universal time with `Z`, and
no, three, six or nine digits of a second, the fewest that are exact. Reading takes any offset and
is lenient about blanks between the parts, a space or `T` between date and time, and the letter
case of `T`, `Z` and `UTC`.
-/

namespace Snowflake.Timestamp

open Calendar

/-- Four digits; a year before 0 or after 9999 has a sign and as many digits as it needs. -/
def writeYear (year : Int) : List Char :=
  if 0 ≤ year ∧ year ≤ 9999 then Decimal.padded 4 year.toNat
  else (if year < 0 then '-' else '+') :: Decimal.padded 4 year.natAbs

def writeFraction (nanos : Nat) : List Char :=
  if nanos = 0 then []
  else if nanos % 1000000 = 0 then '.' :: Decimal.padded 3 (nanos / 1000000)
  else if nanos % 1000 = 0 then '.' :: Decimal.padded 6 (nanos / 1000)
  else '.' :: Decimal.padded 9 nanos

/-- A leap second is the second 60 of its minute. -/
def write (i : Instant) : List Char :=
  let date := Date.ofDays (i.second / 86400)
  let inDay := (i.second % 86400).toNat
  let leap := i.nanos / 1000000000
  writeYear date.year ++ '-' :: Decimal.padded 2 date.month ++ '-' :: Decimal.padded 2 date.day ++
    'T' :: Decimal.padded 2 (inDay / 3600) ++ ':' :: Decimal.padded 2 (inDay / 60 % 60) ++
    ':' :: Decimal.padded 2 (inDay % 60 + leap) ++ writeFraction (i.nanos % 1000000000) ++ ['Z']

def text (i : Instant) : String :=
  String.ofList (write i)

inductive Fault where
  | outOfRange
  | impossible
  | invalid
  | tooShort
  | tooLong
  deriving DecidableEq

def Fault.message : Fault → String
  | .outOfRange => "input is out of range"
  | .impossible => "no possible date and time matching input"
  | .invalid => "input contains invalid characters"
  | .tooShort => "premature end of input"
  | .tooLong => "trailing input"

/-- The digits at the start of a text, `max` of them at most, and the rest. A value beyond 63 bits
is out of range. -/
def number (max : Nat) (cs : List Char) : Except Fault (Nat × List Char) :=
  let digits := (cs.take max).takeWhile Char.isDigit
  match cs, digits with
  | [], _ => .error .tooShort
  | _ :: _, [] => .error .invalid
  | _ :: _, _ :: _ =>
      let n := Nat.ofDigitChars 10 digits 0
      if n < 0x8000000000000000 then .ok (n, cs.drop digits.length) else .error .outOfRange

def literal (c : Char) : List Char → Except Fault (List Char)
  | [] => .error .tooShort
  | d :: cs => if d = c then .ok cs else .error .invalid

/-- Without a sign a year has four digits at most, with one any number. -/
def readYear (cs : List Char) : Except Fault (Int × List Char) := do
  let (year, rest) ←
    match Blank.trimStart cs with
    | '-' :: cs => do let (n, rest) ← number cs.length cs; pure (-(n : Int), rest)
    | '+' :: cs => do let (n, rest) ← number cs.length cs; pure ((n : Int), rest)
    | cs => do let (n, rest) ← number 4 cs; pure ((n : Int), rest)
  if -0x80000000 ≤ year ∧ year < 0x80000000 then pure (year, rest) else throw .outOfRange

def readPart (low high : Nat) (cs : List Char) : Except Fault (Nat × List Char) := do
  let (n, rest) ← number 2 (Blank.trimStart cs)
  if low ≤ n ∧ n ≤ high then pure (n, rest) else throw .outOfRange

/-- A mark between two parts, with blanks before it. -/
def mark (c : Char) (cs : List Char) : Except Fault (List Char) :=
  literal c (Blank.trimStart cs)

/-- The nanoseconds after a point; digits after the ninth are dropped. -/
def readFraction : List Char → Except Fault (Nat × List Char)
  | '.' :: cs => do
      let (n, rest) ← number 9 cs
      pure (n * Nat.pow 10 (9 - (cs.length - rest.length)), rest.dropWhile Char.isDigit)
  | cs => pure (0, cs)

/-- A character outside ASCII takes more than one byte, so that a text that ends with it is not
too short. -/
def twoDigits : List Char → Except Fault (Nat × List Char)
  | c :: d :: cs =>
      if c.isDigit ∧ d.isDigit then pure (Nat.ofDigitChars 10 [c, d] 0, cs) else throw .invalid
  | [c] => throw (if c.toNat < 0x80 then .tooShort else .invalid)
  | [] => throw .tooShort

def readMinutes (cs : List Char) : Except Fault (Nat × List Char) := do
  let (n, rest) ← twoDigits cs
  if n < 60 then pure (n, rest) else throw .outOfRange

/-- The seconds by which local time is ahead. -/
def readOffset (cs : List Char) : Except Fault (Int × List Char) :=
  let sized (sign : Int) (cs : List Char) : Except Fault (Int × List Char) := do
    let (hours, rest) ← twoDigits cs
    let (minutes, rest) ← readMinutes (rest.dropWhile fun c => c == ':' || Blank.isBlank c)
    pure (sign * (hours * 3600 + minutes * 60), rest)
  match cs with
  | [] => throw .tooShort
  | c :: rest =>
      if (cs.take 3).map Char.toLower = ['u', 't', 'c'] then pure (0, cs.drop 3)
      else if c = 'Z' ∨ c = 'z' then pure (0, rest)
      else if c = '+' then sized 1 rest
      else if c = '-' ∨ c = '−' then sized (-1) rest
      else throw .invalid

structure Local where
  date : Date
  hour : Nat
  minute : Nat
  second : Nat
  nanos : Nat
  offset : Int

def readLocal (cs : List Char) : Except Fault (Local × List Char) := do
  let (year, cs) ← readYear cs
  let cs ← mark '-' cs
  let (month, cs) ← readPart 1 12 cs
  let cs ← mark '-' cs
  let (day, cs) ← readPart 1 31 cs
  let cs ←
    match cs with
    | [] => throw .tooShort
    | c :: cs => if c = 'T' ∨ c = 't' ∨ c = ' ' then pure cs else throw .invalid
  let (hour, cs) ← readPart 0 23 cs
  let cs ← mark ':' cs
  let (minute, cs) ← readPart 0 59 cs
  let cs ← mark ':' cs
  let (second, cs) ← readPart 0 60 cs
  let (nanos, cs) ← readFraction cs
  let (offset, cs) ← readOffset (Blank.trimStart cs)
  pure (⟨⟨year, month, day⟩, hour, minute, second, nanos, offset⟩, cs)

/-- The local reading must be an instant itself, the offset less than a day, and the instant that
it stands for in range. -/
def Local.toInstant (l : Local) : Except Fault Instant := do
  if ¬ l.date.IsValid then throw .outOfRange
  let leap := l.second / 60
  let second := l.date.toDays * 86400 + (l.hour * 3600 + l.minute * 60 + (l.second - leap) : Nat)
  match Instant.ofUnix? second (leap * 1000000000 + l.nanos) with
  | none => throw .outOfRange
  | some i =>
      if ¬ (-86400 < l.offset ∧ l.offset < 86400) then throw .outOfRange
      match Instant.ofUnix? (i.second - l.offset) i.nanos with
      | none => throw .impossible
      | some i => pure i

def read (cs : List Char) : Except Fault Instant := do
  let (parts, rest) ← readLocal cs
  if Blank.trimStart rest ≠ [] then throw .tooLong
  parts.toInstant

end Snowflake.Timestamp
