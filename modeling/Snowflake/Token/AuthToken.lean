import Snowflake.Id
import Snowflake.Time.Timestamp
import Snowflake.Token.Secret

/-!
Auth tokens: a secret that a user may show, from an instant on and for a number of seconds or for
ever.
-/

namespace Snowflake

inductive TokenStatus where
  | valid
  | expired
  | notFound
  deriving DecidableEq

/-- The last instant at which something made at `createdAt` is valid. There is none without a time
to live, and none if that instant is beyond the range of instants. -/
def expiry? (createdAt : Instant) : (ttl : Option UInt64) → Option Instant
  | none => none
  | some ttl =>
      match Delay.ofSeconds? ttl with
      | none => none
      | some delay => createdAt.add? delay

namespace TokenStatus

def all : List TokenStatus :=
  [.valid, .expired, .notFound]

def name : TokenStatus → String
  | .valid => "valid"
  | .expired => "expired"
  | .notFound => "not-found"

def describe : TokenStatus → String
  | .valid => "Valid"
  | .expired => "Expired"
  | .notFound => "NotFound"

/-- The status at `now`; the instant of expiry itself still counts as valid. -/
def ofWindow (createdAt : Instant) (ttl : Option UInt64) (now : Instant) : TokenStatus :=
  match expiry? createdAt ttl with
  | none => .valid
  | some expiresAt => if expiresAt < now then .expired else .valid

end TokenStatus

structure AuthToken where
  secret : Secret
  user : UserId
  createdAt : Instant
  ttl : Option UInt64
  deriving DecidableEq

namespace AuthToken

def expiresAt? (t : AuthToken) : Option Instant :=
  expiry? t.createdAt t.ttl

def validate (t : AuthToken) (now : Instant) : TokenStatus :=
  .ofWindow t.createdAt t.ttl now

def describe (t : AuthToken) : String :=
  Record.line "AuthToken"
    [("token", t.secret.describe), ("user", t.user.describe),
      ("created_at", Timestamp.text t.createdAt),
      ("expires_after_seconds", Record.optional (t.ttl.map fun ttl => Decimal.text ttl.toNat))]

end AuthToken

end Snowflake
