import Snowflake.Token.Store

/-!
Issuing tokens with random secrets, and checking them. A secret that is taken is drawn again, up to
a number of attempts.
-/

namespace Snowflake

structure Issuer where
  maxAttempts : UInt32
  deriving DecidableEq

/-- The end of an issue: its result, the store it leaves, and the number of secrets drawn. -/
structure Issued (σ : Type) where
  result : Except StoreError AuthToken
  store : σ
  draws : Nat

namespace Issuer

variable {σ : Type}

def defaultMaxAttempts : UInt32 :=
  3

def new : Issuer :=
  ⟨defaultMaxAttempts⟩

/-- There is always one attempt. -/
def withMaxAttempts (maxAttempts : UInt32) : Issuer :=
  ⟨if maxAttempts < 1 then 1 else maxAttempts⟩

theorem toNat_succ {attempt maxAttempts : UInt32} (h : attempt < maxAttempts) :
    (attempt + 1).toNat = attempt.toNat + 1 := by
  have hlt := UInt32.lt_iff_toNat_lt.mp h
  have hmax := maxAttempts.toNat_lt
  rw [UInt32.toNat_add]
  exact Nat.mod_eq_of_lt (by simp; omega)

/-- The issue from its attempt number `attempt` on, after `drawn` draws. -/
def issueFrom (issuer : Issuer) (store : TokenStore σ) (draw : Nat → Secret) (user : UserId)
    (createdAt : Instant) (ttl : Option UInt64) (attempt : UInt32) (drawn : Nat) (s : σ) :
    Issued σ :=
  let token : AuthToken := ⟨draw drawn, user, createdAt, ttl⟩
  match store.insert token s with
  | (.ok _, s') => ⟨.ok token, s', drawn + 1⟩
  | (.error .tokenConflict, s') =>
      if h : attempt < issuer.maxAttempts then
        issueFrom issuer store draw user createdAt ttl (attempt + 1) (drawn + 1) s'
      else ⟨.error .tokenConflict, s', drawn + 1⟩
  | (.error e, s') => ⟨.error e, s', drawn + 1⟩
termination_by issuer.maxAttempts.toNat - attempt.toNat
decreasing_by
  have hlt := UInt32.lt_iff_toNat_lt.mp h
  rw [toNat_succ h]
  omega

def issue (issuer : Issuer) (store : TokenStore σ) (draw : Nat → Secret) (user : UserId)
    (createdAt : Instant) (ttl : Option UInt64) (s : σ) : Issued σ :=
  issuer.issueFrom store draw user createdAt ttl 1 0 s

end Issuer

namespace TokenStore

variable {σ : Type}

/-- The status of a secret that someone shows at `now`. -/
def authenticate (store : TokenStore σ) (secret : Secret) (now : Instant) (s : σ) :
    Except StoreError TokenStatus × σ :=
  match store.find secret s with
  | (.error e, s') => (.error e, s')
  | (.ok none, s') => (.ok .notFound, s')
  | (.ok (some token), s') => (.ok (token.validate now), s')

end TokenStore

end Snowflake
