import Mathlib
import Snowflake.Token.Issuer

/-!
Stores in memory, seen through `find?`: what each operation leaves to be found, and how many tokens.
-/

namespace Snowflake

namespace MemoryStore

theorem secret_of_find?_eq_some {s : MemoryStore} {secret : Secret} {t : AuthToken}
    (h : s.find? secret = some t) : t.secret = secret := by
  simpa using List.find?_some h

theorem find?_eq_some_iff {s : MemoryStore} {secret : Secret} {t : AuthToken} :
    s.find? secret = some t ↔ t ∈ s.tokens ∧ t.secret = secret := by
  constructor
  · intro h
    exact ⟨List.mem_of_find?_eq_some h, secret_of_find?_eq_some h⟩
  · rintro ⟨ht, rfl⟩
    rcases hu : s.find? t.secret with _ | u
    · exact absurd (List.mem_map_of_mem ht) (find?_eq_none_iff.mp hu)
    · have hmem := List.mem_of_find?_eq_some hu
      have hsecret := secret_of_find?_eq_some hu
      rw [List.inj_on_of_nodup_map s.nodup hmem ht hsecret]

theorem find?_filter (keep : AuthToken → Bool) (s : MemoryStore) (secret : Secret) :
    (s.filter keep).find? secret = (s.find? secret).filter keep := by
  ext t
  rw [find?_eq_some_iff, Option.filter_eq_some_iff, find?_eq_some_iff, filter, List.mem_filter,
    and_right_comm]

theorem find?_of_tokens_eq_cons {s s' : MemoryStore} {t : AuthToken}
    (h : s'.tokens = t :: s.tokens) (secret : Secret) :
    s'.find? secret = if t.secret = secret then some t else s.find? secret := by
  rw [find?, h, List.find?_cons]
  split
  · rename_i hsecret
    rw [if_pos (of_decide_eq_true hsecret)]
  · rename_i hsecret
    rw [if_neg (of_decide_eq_false hsecret), find?]

theorem insert_of_find?_eq_some {s : MemoryStore} {t u : AuthToken}
    (h : s.find? t.secret = some u) : s.insert t = (.error .tokenConflict, s) := by
  rw [insert]
  split
  · rfl
  · rename_i hnone
    rw [h] at hnone
    cases hnone

theorem insert_of_find?_eq_none {s : MemoryStore} {t : AuthToken}
    (h : s.find? t.secret = none) :
    ∃ s', s.insert t = (.ok (), s') ∧ s'.tokens = t :: s.tokens := by
  rw [insert]
  split
  · rename_i hsome
    rw [h] at hsome
    cases hsome
  · exact ⟨_, rfl, rfl⟩

theorem insert_cases (t : AuthToken) (s : MemoryStore) :
    (∃ s', s.find? t.secret = none ∧ s.insert t = (.ok (), s') ∧ s'.tokens = t :: s.tokens) ∨
      (s.find? t.secret).isSome ∧ s.insert t = (.error .tokenConflict, s) := by
  rcases h : s.find? t.secret with _ | u
  · obtain ⟨s', hinsert, htokens⟩ := insert_of_find?_eq_none h
    exact .inl ⟨s', rfl, hinsert, htokens⟩
  · exact .inr ⟨rfl, insert_of_find?_eq_some h⟩

theorem eq_of_insert_eq_error {s s' : MemoryStore} {t : AuthToken} {e : StoreError}
    (h : s.insert t = (.error e, s')) : e = .tokenConflict ∧ s' = s := by
  rcases insert_cases t s with ⟨s'', -, hinsert, -⟩ | ⟨-, hinsert⟩
  · rw [hinsert] at h
    cases h
  · rw [hinsert] at h
    cases h
    exact ⟨rfl, rfl⟩

theorem tokens_of_insert_eq_ok {s s' : MemoryStore} {t : AuthToken}
    (h : s.insert t = (.ok (), s')) : s'.tokens = t :: s.tokens := by
  rcases insert_cases t s with ⟨s'', -, hinsert, htokens⟩ | ⟨-, hinsert⟩
  · rw [hinsert] at h
    cases h
    exact htokens
  · rw [hinsert] at h
    cases h

theorem size_filter_le (keep : AuthToken → Bool) (s : MemoryStore) :
    (s.filter keep).size ≤ s.size :=
  List.length_filter_le keep s.tokens

theorem countP_secret (secret : Secret) (s : MemoryStore) :
    s.tokens.countP (fun t => t.secret = secret) = if (s.find? secret).isSome then 1 else 0 := by
  have hcount := s.nodup.count (a := secret)
  rw [List.count_eq_countP, List.countP_map] at hcount
  rcases hfind : s.find? secret with _ | t
  · rw [if_neg (find?_eq_none_iff.mp hfind)] at hcount
    exact hcount
  · obtain ⟨hmem, rfl⟩ := find?_eq_some_iff.mp hfind
    rw [if_pos (List.mem_map_of_mem hmem)] at hcount
    exact hcount

theorem size_revoke (secret : Secret) (s : MemoryStore) :
    (s.revoke secret).2.size + (if (s.revoke secret).1 then 1 else 0) = s.size := by
  have hlength := s.tokens.length_eq_countP_add_countP fun t => t.secret = secret
  rw [countP_secret, Nat.add_comm, List.countP_eq_length_filter] at hlength
  simpa [revoke, size, filter] using hlength.symm

theorem size_purge (now : Instant) (s : MemoryStore) :
    (s.purge now).2.size + (s.purge now).1 = s.size := by
  have hle := s.size_filter_le fun t => t.validate now = .valid
  exact Nat.add_sub_of_le hle

/-- What a check of the secret at `now` answers. -/
def status (s : MemoryStore) (secret : Secret) (now : Instant) : TokenStatus :=
  (s.find? secret).elim .notFound fun t => t.validate now

theorem authenticate_tokenStore (secret : Secret) (now : Instant) (s : MemoryStore) :
    tokenStore.authenticate secret now s = (.ok (s.status secret now), s) := by
  rcases h : s.find? secret with _ | t
  · simp [TokenStore.authenticate, tokenStore, status, h]
  · simp [TokenStore.authenticate, tokenStore, status, h]

end MemoryStore

theorem Issuer.issueFrom_cases (issuer : Issuer) (draw : Nat → Secret) (user : UserId)
    (createdAt : Instant) (ttl : Option UInt64) (attempt : UInt32) (drawn : Nat)
    (s : MemoryStore) :
    let issued := issuer.issueFrom MemoryStore.tokenStore draw user createdAt ttl attempt drawn s
    (∃ t, issued.result = .ok t ∧ s.insert t = (.ok (), issued.store)) ∨
      issued.result = .error .tokenConflict ∧ issued.store = s := by
  fun_induction issueFrom issuer MemoryStore.tokenStore draw user createdAt ttl attempt drawn s
  case case1 token _ _ hinsert => exact .inl ⟨token, rfl, hinsert⟩
  case case2 hinsert _ ih =>
    obtain ⟨-, rfl⟩ := MemoryStore.eq_of_insert_eq_error hinsert
    exact ih
  case case3 hinsert _ =>
    obtain ⟨-, rfl⟩ := MemoryStore.eq_of_insert_eq_error hinsert
    exact .inr ⟨rfl, rfl⟩
  case case4 hother hinsert =>
    exact absurd (MemoryStore.eq_of_insert_eq_error hinsert).1 hother

end Snowflake
