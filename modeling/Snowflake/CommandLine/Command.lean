import Snowflake.CommandLine.Flag

/-!
The commands of the command line, and the levels at which its words are read: the program itself,
its commands, and the commands about tokens.
-/

namespace Snowflake.CommandLine

inductive Command where
  | mint (kind : Kind) (count : UInt64)
  | decode (id : String)
  | issue (user : String) (ttl : Option UInt64)
  | check (createdAt : Instant) (ttl : Option UInt64) (now : Option Instant)
  deriving DecidableEq

inductive Level where
  | program
  | mint
  | decode
  | token
  | issue
  | check
  deriving DecidableEq

namespace Level

def ownFlags : Level → List Flag
  | program | decode | token => []
  | mint => [.kind, .count]
  | issue => [.user, .ttl]
  | check => [.createdAt, .ttl, .now]

def flags (l : Level) : List Flag :=
  Flag.settings ++ l.ownFlags

def flag? (l : Level) (name : String) : Option Flag :=
  l.flags.find? fun f => f.name == name

/-- The commands of a level. -/
def commands : Level → List (String × Level)
  | program => [("mint", mint), ("decode", decode), ("token", token)]
  | token => [("issue", issue), ("check", check)]
  | mint | decode | issue | check => []

def command? (l : Level) (name : String) : Option Level :=
  l.commands.lookup name

/-- A level that has commands needs one. -/
def isGroup (l : Level) : Bool :=
  l.commands ≠ []

/-- Whether a word that is neither a flag nor its value is wanted. -/
def takesWord (l : Level) : Bool :=
  l = decode

/-- The command that the values given at a level make up; there is none if a value is missing. -/
def toCommand? (l : Level) (vs : Values) (word : Option String) : Option Command :=
  match l with
  | program | token => none
  | mint => (vs .kind).map fun kind => .mint kind ((vs .count).getD (1 : UInt64))
  | decode => word.map .decode
  | issue => (vs .user).map fun user => .issue user (vs .ttl)
  | check => (vs .createdAt).map fun createdAt => .check createdAt (vs .ttl) (vs .now)

end Level

end Snowflake.CommandLine
