import Snowflake.Proofs.Token.Log

/-!
Purges of a store in memory: one removes the tokens that a check at the same instant finds expired,
and purges at several instants, in any order, do together what the one at the latest does alone.
-/

namespace Snowflake.MemoryStore

/-- What becomes of one secret, by what a check at the instant of the purge says about it. -/
theorem purge_cases (now : Instant) (s : MemoryStore) (secret : Secret) :
    let status := s.status secret now
    let kept := (s.purge now).2
    (status = .notFound ∧ s.find? secret = none ∧ kept.find? secret = none) ∨
      (∃ t, status = .valid ∧ s.find? secret = some t ∧ kept.find? secret = some t) ∨
      ∃ t, status = .expired ∧ s.find? secret = some t ∧ kept.find? secret = none := by
  have hkept : (s.purge now).2.find? secret =
      (s.find? secret).filter fun t => t.validate now = .valid := find?_filter _ s secret
  simp only [status, hkept]
  rcases s.find? secret with _ | t
  · exact .inl ⟨rfl, rfl, rfl⟩
  rcases t.validate_cases now with hvalid | hexpired
  · exact .inr (.inl ⟨t, by simp [hvalid]⟩)
  · exact .inr (.inr ⟨t, by simp [hexpired]⟩)

theorem status_of_mem {s : MemoryStore} {t : AuthToken} (ht : t ∈ s.tokens) (now : Instant) :
    s.status t.secret now = t.validate now := by
  rw [status, find?_eq_some_iff.mpr ⟨ht, rfl⟩, Option.elim_some]

theorem removed_purge (now : Instant) (s : MemoryStore) :
    (s.purge now).1 = s.tokens.countP fun t => t.validate now = .expired := by
  have hlength := s.tokens.length_eq_countP_add_countP fun t => t.validate now = .valid
  have hsize := size_purge now s
  have hexpired (t : AuthToken) : (¬ t.validate now = .valid) ↔ t.validate now = .expired := by
    rw [t.validate_eq_valid_iff, Ne, not_not]
  rw [List.countP_eq_length_filter] at hlength
  simp only [decide_eq_true_eq, hexpired] at hlength
  simp only [size, purge, filter] at hsize ⊢
  omega

theorem purge_purge (a b : Instant) (s : MemoryStore) :
    ((s.purge a).2.purge b).2 = (s.purge (max a b)).2 := by
  simp only [purge, filter, List.filter_filter, AuthToken.validate_max_eq_valid_iff,
    Bool.decide_and, Bool.and_comm]

theorem removed_purge_purge (a b : Instant) (s : MemoryStore) :
    (s.purge a).1 + ((s.purge a).2.purge b).1 = (s.purge (max a b)).1 := by
  have hfirst := size_purge a s
  have hsecond := size_purge b (s.purge a).2
  have honce := size_purge (max a b) s
  rw [purge_purge] at hsecond
  omega

theorem purge_purge_of_le {earlier now : Instant} (hle : earlier ≤ now) (s : MemoryStore) :
    (s.purge now).2.purge earlier = (0, (s.purge now).2) := by
  have hkept := purge_purge now earlier s
  have hremoved := removed_purge_purge now earlier s
  rw [max_eq_left hle] at hkept hremoved
  exact Prod.ext (Nat.add_eq_left.mp hremoved) hkept

theorem afterOperations_purges (times : List Instant) (s : MemoryStore) :
    s.afterOperations (times.map .purge) =
      times.max?.elim s fun latest => (s.purge latest).2 := by
  induction times generalizing s with
  | nil => rfl
  | cons now times ih =>
      have hrest := ih (s.purge now).2
      rw [List.max?_cons, Option.elim_some]
      rcases hmax : times.max? with _ | latest
      · rw [hmax] at hrest
        exact hrest
      · rw [hmax, Option.elim_some, purge_purge] at hrest
        exact hrest

theorem removed_purges (times : List Instant) (s : MemoryStore) :
    ((s.events (times.map .purge)).map Event.removed).sum =
      times.max?.elim 0 fun latest => (s.purge latest).1 := by
  induction times generalizing s with
  | nil => rfl
  | cons now times ih =>
      have hrest := ih (s.purge now).2
      have hlog : (s.events ((now :: times).map .purge)).map Event.removed =
          (s.purge now).1 :: ((s.purge now).2.events (times.map .purge)).map Event.removed := rfl
      rw [hlog, List.sum_cons, hrest, List.max?_cons, Option.elim_some]
      rcases times.max? with _ | latest
      · rfl
      · exact removed_purge_purge now latest s

theorem purges_at_latest (s : MemoryStore) (now : Instant) (secret : Secret)
    (times : List Instant) :
    let status (shown : Secret) := (tokenStore.authenticate shown now s).1
    let kept := (s.purge now).2
    let purges := times.map Operation.purge
    (status secret = .ok .expired ↔ (s.find? secret).isSome ∧ kept.find? secret = none) ∧
      (status secret = .ok .valid ↔
        ∃ t, s.find? secret = some t ∧ kept.find? secret = some t) ∧
      (status secret = .ok .notFound ↔ s.find? secret = none) ∧
      (s.find? secret = none → kept.find? secret = none) ∧
      (s.purge now).1 = s.tokens.countP (fun t => status t.secret = .ok .expired) ∧
      s.afterOperations purges = times.max?.elim s (fun latest => (s.purge latest).2) ∧
      ((s.events purges).map Event.removed).sum =
        times.max?.elim 0 (fun latest => (s.purge latest).1) ∧
      ∀ earlier ≤ now, kept.purge earlier = (0, kept) := by
  intro status kept purges
  have hanswer (shown : Secret) : status shown = .ok (s.status shown now) :=
    congrArg Prod.fst (authenticate_tokenStore shown now s)
  have hcount : (s.purge now).1 = s.tokens.countP fun t => status t.secret = .ok .expired := by
    rw [removed_purge]
    apply List.countP_congr
    intro t ht
    simp [hanswer, status_of_mem ht]
  have hkeptLast := afterOperations_purges times s
  have hremoved := removed_purges times s
  have hearlier (earlier : Instant) (hle : earlier ≤ now) := purge_purge_of_le hle s
  rcases purge_cases now s secret with ⟨hstatus, hfind, hkept⟩ | ⟨t, hstatus, hfind, hkept⟩ |
    ⟨t, hstatus, hfind, hkept⟩
  all_goals
    refine ⟨?_, ?_, ?_, ?_, hcount, hkeptLast, hremoved, hearlier⟩
    all_goals simp [hanswer, kept, hstatus, hfind, hkept]

end Snowflake.MemoryStore
