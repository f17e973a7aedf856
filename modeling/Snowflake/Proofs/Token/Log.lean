import Snowflake.Proofs.Token.Expiry
import Snowflake.Proofs.Token.Store

/-!
Stores in memory after any operations, against the log of the operations: a token is found as long
as the last event about its secret is the one that put it in, and none is lost or counted twice.
-/

namespace Snowflake.MemoryStore

inductive Operation where
  | insert (token : AuthToken)
  | find (secret : Secret)
  | revoke (secret : Secret)
  | purge (now : Instant)
  | issue (issuer : Issuer) (draw : Nat → Secret) (user : UserId) (createdAt : Instant)
      (ttl : Option UInt64)
  | authenticate (secret : Secret) (now : Instant)

/-- An operation, and the store that it is asked of. -/
structure Event where
  before : MemoryStore
  operation : Operation

namespace Event

def after (e : Event) : MemoryStore :=
  match e.operation with
  | .insert token => (e.before.insert token).2
  | .find secret => (tokenStore.find secret e.before).2
  | .revoke secret => (e.before.revoke secret).2
  | .purge now => (e.before.purge now).2
  | .issue issuer draw user createdAt ttl =>
      (issuer.issue tokenStore draw user createdAt ttl e.before).store
  | .authenticate secret now => (tokenStore.authenticate secret now e.before).2

/-- The token of an insert or an issue that succeeds. -/
def inserted? (e : Event) : Option AuthToken :=
  match e.operation with
  | .insert token => (e.before.insert token).1.toOption.map fun _ => token
  | .issue issuer draw user createdAt ttl =>
      (issuer.issue tokenStore draw user createdAt ttl e.before).result.toOption
  | _ => none

/-- Whether the event puts in a token with this secret, or takes one out. -/
def affects (e : Event) (secret : Secret) : Bool :=
  match e.operation with
  | .revoke revoked => revoked = secret && (e.before.revoke revoked).1
  | .purge now => (e.before.find? secret).any fun t => t.validate now = .expired
  | _ => e.inserted?.any fun t => t.secret = secret

/-- The number of tokens that a revocation or a purge reports as removed. -/
def removed (e : Event) : Nat :=
  match e.operation with
  | .revoke secret => if (e.before.revoke secret).1 then 1 else 0
  | .purge now => (e.before.purge now).1
  | _ => 0

/-- The two things that an event can do: it puts in one token, or it keeps a part of the tokens. -/
inductive Effect (e : Event) : Prop
  | adds (token : AuthToken) (hinserted : e.inserted? = some token)
      (htokens : e.after.tokens = token :: e.before.tokens)
      (haffects : ∀ secret, e.affects secret = decide (token.secret = secret))
      (hremoved : e.removed = 0)
  | keeps (keep : AuthToken → Bool) (hinserted : e.inserted? = none)
      (hafter : e.after = e.before.filter keep)
      (haffects : ∀ secret, e.affects secret = (e.before.find? secret).any fun t => !keep t)
      (hremoved : e.after.size + e.removed = e.before.size)

theorem effect_of_insert {e : Event} (token : AuthToken) (hinserted : e.inserted? = some token)
    (hinsert : e.before.insert token = (.ok (), e.after))
    (haffects : ∀ secret, e.affects secret = e.inserted?.any fun t => t.secret = secret)
    (hremoved : e.removed = 0) : e.Effect := by
  refine .adds token hinserted (tokens_of_insert_eq_ok hinsert) ?_ hremoved
  intro secret
  rw [haffects, hinserted, Option.any_some]

theorem effect_of_after_eq {e : Event} (hinserted : e.inserted? = none)
    (hafter : e.after = e.before)
    (haffects : ∀ secret, e.affects secret = e.inserted?.any fun t => t.secret = secret)
    (hremoved : e.removed = 0) : e.Effect := by
  refine .keeps (fun _ => true) hinserted ?_ ?_ ?_
  · simp [hafter, filter]
  · simp [haffects, hinserted]
  · rw [hafter, hremoved, Nat.add_zero]

theorem effect (e : Event) : e.Effect := by
  obtain ⟨s, operation⟩ := e
  cases operation with
  | insert token =>
      rcases insert_cases token s with ⟨s', -, hinsert, -⟩ | ⟨-, hinsert⟩
      · refine effect_of_insert token ?_ ?_ (fun _ => rfl) rfl
        · simp [inserted?, hinsert, Except.toOption]
        · simp [after, hinsert]
      · refine effect_of_after_eq ?_ ?_ (fun _ => rfl) rfl
        · simp [inserted?, hinsert, Except.toOption]
        · simp [after, hinsert]
  | find secret => exact effect_of_after_eq rfl rfl (fun _ => rfl) rfl
  | revoke secret =>
      -- What is not kept is the token with this secret, which was there if anything is removed.
      refine .keeps (fun t => t.secret ≠ secret) rfl rfl ?_ (size_revoke secret s)
      intro other
      rcases hfind : s.find? other with _ | t
      · by_cases hsecret : secret = other
        · simp [affects, revoke, hsecret, hfind]
        · simp [affects, hsecret]
      · obtain rfl := secret_of_find?_eq_some hfind
        by_cases hsecret : secret = t.secret
        · simp [affects, revoke, hsecret, hfind]
        · simp [affects, hsecret, Ne.symm hsecret]
  | purge now =>
      refine .keeps (fun t => t.validate now = .valid) rfl rfl ?_ (size_purge now s)
      intro secret
      simp [affects, AuthToken.validate_eq_valid_iff]
  | issue issuer draw user createdAt ttl =>
      rcases issuer.issueFrom_cases draw user createdAt ttl 1 0 s with
        ⟨token, hresult, hinsert⟩ | ⟨hresult, hstore⟩
      · refine effect_of_insert token ?_ hinsert (fun _ => rfl) rfl
        simp [inserted?, Issuer.issue, hresult, Except.toOption]
      · refine effect_of_after_eq ?_ hstore (fun _ => rfl) rfl
        simp [inserted?, Issuer.issue, hresult, Except.toOption]
  | authenticate secret now =>
      have hstore := congrArg Prod.snd (authenticate_tokenStore secret now s)
      exact effect_of_after_eq rfl hstore (fun _ => rfl) rfl

theorem find?_after (e : Event) (secret : Secret) :
    e.after.find? secret =
      if e.affects secret then e.inserted? else e.before.find? secret := by
  rcases e.effect with ⟨token, hinserted, htokens, haffects, -⟩ |
    ⟨keep, hinserted, hafter, haffects, -⟩
  · simp only [find?_of_tokens_eq_cons htokens, haffects, hinserted, decide_eq_true_eq]
  · rw [hafter, find?_filter, haffects, hinserted]
    rcases e.before.find? secret with _ | t
    · rfl
    · cases hkeep : keep t <;> simp [hkeep]

theorem size_after (e : Event) :
    e.after.size + e.removed = e.before.size + e.inserted?.toList.length := by
  rcases e.effect with ⟨token, hinserted, htokens, -, hremoved⟩ |
    ⟨keep, hinserted, -, -, hremoved⟩
  · rw [size, htokens, hinserted, hremoved]
    rfl
  · rw [hinserted]
    exact hremoved

end Event

def afterOperations (s : MemoryStore) (operations : List Operation) : MemoryStore :=
  operations.foldl (fun s operation => Event.after ⟨s, operation⟩) s

/-- The log of the operations, from the first to the last. -/
def events (s : MemoryStore) : List Operation → List Event
  | [] => []
  | operation :: operations =>
      ⟨s, operation⟩ :: events (Event.after ⟨s, operation⟩) operations

theorem afterOperations_concat (s : MemoryStore) (operations : List Operation)
    (operation : Operation) :
    s.afterOperations (operations ++ [operation]) =
      Event.after ⟨s.afterOperations operations, operation⟩ := by
  rw [afterOperations, List.foldl_append]
  rfl

theorem events_concat (s : MemoryStore) (operations : List Operation) (operation : Operation) :
    s.events (operations ++ [operation]) =
      s.events operations ++ [⟨s.afterOperations operations, operation⟩] := by
  induction operations generalizing s with
  | nil => rfl
  | cons first operations ih =>
      rw [List.cons_append, events, ih, events, List.cons_append]
      rfl

/-- The last event of the log that affects the secret. -/
def lastEvent? (log : List Event) (secret : Secret) : Option Event :=
  (log.filter fun e => e.affects secret).getLast?

theorem lastEvent?_concat (log : List Event) (e : Event) (secret : Secret) :
    lastEvent? (log ++ [e]) secret =
      if e.affects secret then some e else lastEvent? log secret := by
  rw [lastEvent?, List.filter_append]
  by_cases haffects : e.affects secret
  · simp [haffects]
  · simp [haffects, lastEvent?]

theorem find?_afterOperations (s : MemoryStore) (operations : List Operation) (secret : Secret) :
    (s.afterOperations operations).find? secret =
      (lastEvent? (s.events operations) secret).elim (s.find? secret) Event.inserted? := by
  -- From the right: the last operation either settles what is found, or leaves it to those before.
  induction operations using List.reverseRecOn with
  | nil => rfl
  | append_singleton operations operation ih =>
      rw [afterOperations_concat, Event.find?_after, events_concat, lastEvent?_concat, ih]
      split <;> rfl

theorem find?_afterOperations_empty (operations : List Operation) (secret : Secret) :
    (empty.afterOperations operations).find? secret =
      (lastEvent? (empty.events operations) secret).bind Event.inserted? := by
  rw [find?_afterOperations]
  rcases lastEvent? (empty.events operations) secret with _ | e <;> rfl

theorem size_afterOperations (s : MemoryStore) (operations : List Operation) :
    (s.afterOperations operations).size + ((s.events operations).map Event.removed).sum =
      s.size + ((s.events operations).filterMap Event.inserted?).length := by
  induction operations using List.reverseRecOn with
  | nil => rfl
  | append_singleton operations operation ih =>
      have hsize := Event.size_after ⟨s.afterOperations operations, operation⟩
      dsimp only at hsize
      rw [List.filterMap_eq_flatMap_toList] at ih ⊢
      rw [afterOperations_concat, events_concat]
      simp only [List.map_append, List.sum_append, List.map_singleton, List.sum_singleton,
        List.flatMap_append, List.flatMap_singleton, List.length_append]
      omega

theorem refines_log (operations : List Operation) (secret : Secret) (r token : AuthToken) :
    let s := empty.afterOperations operations
    let log := empty.events operations
    (s.find? secret = some r ↔
        ∃ e, lastEvent? log secret = some e ∧ e.inserted? = some r ∧ r.secret = secret) ∧
      (s.insert token = (.error .tokenConflict, s) ↔ (s.find? token.secret).isSome) ∧
      ((s.insert token).1 = .ok () ↔ s.find? token.secret = none) ∧
      s.size + (log.map Event.removed).sum = (log.filterMap Event.inserted?).length := by
  intro s log
  have hfind : s.find? secret = (lastEvent? log secret).bind Event.inserted? :=
    find?_afterOperations_empty operations secret
  refine ⟨?_, ?_, ?_, ?_⟩
  · constructor
    · intro hr
      have hsecret := secret_of_find?_eq_some hr
      rw [hfind, Option.bind_eq_some_iff] at hr
      obtain ⟨e, hlast, hinserted⟩ := hr
      exact ⟨e, hlast, hinserted, hsecret⟩
    · rintro ⟨e, hlast, hinserted, -⟩
      rw [hfind, hlast, Option.bind_some, hinserted]
  · rcases insert_cases token s with ⟨s', hnone, hinsert, -⟩ | ⟨hsome, hinsert⟩
    · simp [hnone, hinsert]
    · simp [hsome, hinsert]
  · rcases insert_cases token s with ⟨s', hnone, hinsert, -⟩ | ⟨hsome, hinsert⟩
    · simp [hnone, hinsert]
    · simp [Option.isSome_iff_ne_none.mp hsome, hinsert]
  · have hsize := size_afterOperations empty operations
    rwa [show empty.size = 0 from rfl, Nat.zero_add] at hsize

end Snowflake.MemoryStore
