import Snowflake.Json.Identity
import Snowflake.Json.Record
import Snowflake.Token.AuthToken

/-!
Auth tokens in JSON. The time to live may be null or left out, for a token that is valid for ever.
-/

namespace Snowflake

open Json

namespace Secret

def ofHead : Head → Except Mismatch Secret :=
  Scalar.text "a string" fun s => (Secret.read s).mapError InvalidSecret.message

def ofJson (s : String) : Except Fault Secret :=
  document (scalar ofHead) s

def toJson (s : Secret) : List Char :=
  Literal.write s.text

end Secret

namespace Instant

def ofHead : Head → Except Mismatch Instant :=
  Scalar.text "an RFC 3339 formatted date and time string" fun s =>
    (Timestamp.read s.toList).mapError Timestamp.Fault.message

def toJson (i : Instant) : List Char :=
  Literal.write (Timestamp.text i)

end Instant

namespace TokenStatus

def ofJson (s : String) : Except Fault TokenStatus :=
  document (Variant.read all name) s

def toJson (s : TokenStatus) : List Char :=
  Literal.write s.name

end TokenStatus

namespace AuthToken

/-- A time to live that was given as null is `some none`. -/
structure Draft where
  secret : Option Secret
  user : Option UserId
  createdAt : Option Instant
  ttl : Option (Option UInt64)

namespace Draft

def secretField : RecordField Draft where
  name := "token"
  isSet d := d.secret.isSome
  set head d := do pure { d with secret := some (← Secret.ofHead head) }

def userField : RecordField Draft where
  name := "user"
  isSet d := d.user.isSome
  set head d := do pure { d with user := some (← Id.ofHead head) }

def createdAtField : RecordField Draft where
  name := "created_at"
  isSet d := d.createdAt.isSome
  set head d := do pure { d with createdAt := some (← Instant.ofHead head) }

def ttlField : RecordField Draft where
  name := "expires_after_seconds"
  isSet d := d.ttl.isSome
  set head d := do pure { d with ttl := some (← Scalar.optional Scalar.word head) }

end Draft

def layout : Layout Draft AuthToken where
  name := "AuthToken"
  fields := [Draft.secretField, Draft.userField, Draft.createdAtField, Draft.ttlField]
  passesOver := true
  mayEndEarly := false
  blank := ⟨none, none, none, none⟩
  finish d := do
    pure ⟨← require "token" d.secret, ← require "user" d.user, ← require "created_at" d.createdAt,
      d.ttl.getD none⟩

def ofJson (s : String) : Except Fault AuthToken :=
  document layout.read s

def members (t : AuthToken) : List Member :=
  [("token", t.secret.toJson), ("user", t.user.toJson), ("created_at", t.createdAt.toJson),
    ("expires_after_seconds", writeOptional (t.ttl.map UInt64.toNat))]

def toJson (t : AuthToken) : List Char :=
  Object.line t.members

end AuthToken

end Snowflake
