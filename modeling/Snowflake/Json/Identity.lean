import Snowflake.Id
import Snowflake.Json.Object
import Snowflake.Json.Scalar
import Snowflake.Json.Variant

/-!
Identifiers and kinds in JSON. Identifiers are written as texts, because many readers of JSON have
no integers of 64 bits; they may be read from texts and from integers.
-/

namespace Snowflake

open Json

namespace Flake

def expectedHead : String :=
  "a snowflake as a decimal string or unsigned integer"

def ofHead : Head → Except Mismatch Flake
  | .text s => (Flake.read s).mapError fun e => .rejected e.message
  | head => (Scalar.bounded 18446744073709551615 expectedHead head).map fun n => ⟨UInt64.ofNat n⟩

def ofJson (s : String) : Except Fault Flake :=
  document (scalar ofHead) s

def toJson (f : Flake) : List Char :=
  Literal.write f.text

end Flake

namespace Id

variable {k : Kind}

def ofHead (head : Head) : Except Mismatch (Id k) :=
  (Flake.ofHead head).map Id.mk

def ofJson (s : String) : Except Fault (Id k) :=
  document (scalar ofHead) s

def toJson (id : Id k) : List Char :=
  id.flake.toJson

end Id

namespace TaggedId

def ofHead : Head → Except Mismatch TaggedId :=
  Scalar.text "a string" fun s => (TaggedId.read s).mapError InvalidId.message

def ofJson (s : String) : Except Fault TaggedId :=
  document (scalar ofHead) s

def toJson (t : TaggedId) : List Char :=
  Literal.write t.text

end TaggedId

namespace Kind

def ofJson (s : String) : Except Fault Kind :=
  document (Variant.read all name) s

def toJson (k : Kind) : List Char :=
  Literal.write k.name

end Kind

end Snowflake
