import Snowflake.Account.Handle
import Snowflake.Token.AuthToken

/-!
Stores of auth tokens. A store may be anything that can insert a token and find one by its secret;
the store in memory holds at most one token for each secret.
-/

namespace Snowflake

inductive StoreError where
  | tokenConflict
  | handleTaken (handle : Handle)
  | unknownUser (user : UserId)
  deriving DecidableEq

def StoreError.message : StoreError → String
  | .tokenConflict => "token already exists"
  | .handleTaken handle => "handle " ++ handle.text ++ " is taken"
  | .unknownUser user => "user " ++ user.text ++ " does not exist"

def StoreError.describe : StoreError → String
  | .tokenConflict => "TokenConflict"
  | .handleTaken handle => Record.wrap "HandleNotUnique" handle.describe
  | .unknownUser user => Record.wrap "ForeignKeyViolation" user.describe

/-- What the states of a store can do. -/
structure TokenStore (σ : Type) where
  insert : AuthToken → σ → Except StoreError Unit × σ
  find : Secret → σ → Except StoreError (Option AuthToken) × σ

structure MemoryStore where
  tokens : List AuthToken
  nodup : (tokens.map AuthToken.secret).Nodup

namespace MemoryStore

def empty : MemoryStore :=
  ⟨[], List.nodup_nil⟩

def size (s : MemoryStore) : Nat :=
  s.tokens.length

def find? (s : MemoryStore) (secret : Secret) : Option AuthToken :=
  s.tokens.find? fun t => t.secret = secret

theorem find?_eq_none_iff {s : MemoryStore} {secret : Secret} :
    s.find? secret = none ↔ secret ∉ s.tokens.map AuthToken.secret := by
  simp [find?]

/-- The tokens that `keep` holds of. -/
def filter (keep : AuthToken → Bool) (s : MemoryStore) : MemoryStore :=
  ⟨s.tokens.filter keep, s.nodup.sublist (List.filter_sublist.map AuthToken.secret)⟩

def insert (t : AuthToken) (s : MemoryStore) : Except StoreError Unit × MemoryStore :=
  match h : s.find? t.secret with
  | some _ => (.error .tokenConflict, s)
  | none => (.ok (), ⟨t :: s.tokens, List.nodup_cons.mpr ⟨find?_eq_none_iff.mp h, s.nodup⟩⟩)

/-- Whether there was such a token, and the store without it. -/
def revoke (secret : Secret) (s : MemoryStore) : Bool × MemoryStore :=
  ((s.find? secret).isSome, s.filter fun t => t.secret ≠ secret)

/-- The number of tokens that are expired at `now`, and the store without them. -/
def purge (now : Instant) (s : MemoryStore) : Nat × MemoryStore :=
  let kept := s.filter fun t => t.validate now = .valid
  (s.size - kept.size, kept)

def tokenStore : TokenStore MemoryStore where
  insert := insert
  find secret s := (.ok (s.find? secret), s)

end MemoryStore

end Snowflake
