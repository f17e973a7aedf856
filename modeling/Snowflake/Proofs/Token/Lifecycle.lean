import Snowflake.Proofs.Token.Log

/-!
The life of a token in a store: what checks of one secret answer moves from valid over expired to
not found and never back, unless a token with this secret is put in again.
-/

namespace Snowflake

/-- How far a token has come that is seen in this status. -/
def TokenStatus.stage : TokenStatus → Nat
  | .valid => 0
  | .expired => 1
  | .notFound => 2

theorem AuthToken.stage_validate_le {now later : Instant} (t : AuthToken) (hle : now ≤ later) :
    (t.validate now).stage ≤ (t.validate later).stage := by
  rcases t.validate_cases later with hvalid | hexpired
  · have hnow : t.validate now = .valid := TokenStatus.ofWindow_eq_valid_of_le hle hvalid
    rw [hnow, hvalid]
  · rcases t.validate_cases now with hnow | hnow
    · rw [hnow, hexpired]
      decide
    · rw [hnow, hexpired]

namespace MemoryStore

/-- The instant that an operation takes for the present. -/
def Operation.now? : Operation → Option Instant
  | .purge now => some now
  | .authenticate _ now => some now
  | _ => none

namespace Event

/-- The event is a check of the secret at `now`, and this status is what it answers. -/
def Answers (e : Event) (secret : Secret) (now : Instant) (status : TokenStatus) : Prop :=
  e.operation = .authenticate secret now ∧
    (tokenStore.authenticate secret now e.before).1 = .ok status

theorem answers_iff {e : Event} {secret : Secret} {now : Instant} {status : TokenStatus} :
    e.Answers secret now status ↔
      e.operation = .authenticate secret now ∧ e.before.status secret now = status := by
  rw [Answers, authenticate_tokenStore, Except.ok.injEq]

theorem after_of_authenticate {e : Event} {secret : Secret} {now : Instant}
    (h : e.operation = .authenticate secret now) : e.after = e.before := by
  rw [after, h]
  exact congrArg Prod.snd (authenticate_tokenStore secret now e.before)

/-- The two ways in which a token leaves a store. -/
inductive Removes (e : Event) (t : AuthToken) : Prop
  | revokes (hoperation : e.operation = .revoke t.secret)
      (hrevoked : (e.before.revoke t.secret).1 = true)
  | purges (now : Instant) (hoperation : e.operation = .purge now)
      (hexpired : t.validate now = .expired)

theorem secret_of_affects {e : Event} {secret : Secret} {t : AuthToken}
    (haffects : e.affects secret) (hinserted : e.inserted? = some t) : t.secret = secret := by
  rcases e.effect with ⟨token, htoken, -, htokenAffects, -⟩ | ⟨-, hnone, -⟩
  · rw [hinserted] at htoken
    cases htoken
    rw [htokenAffects] at haffects
    exact of_decide_eq_true haffects
  · rw [hinserted] at hnone
    cases hnone

theorem removes_of_affects {e : Event} {secret : Secret} (haffects : e.affects secret)
    (hinserted : e.inserted? = none) : ∃ t, e.before.find? secret = some t ∧ e.Removes t := by
  obtain ⟨s, operation⟩ := e
  cases operation with
  | revoke revoked =>
      simp only [affects, Bool.and_eq_true, decide_eq_true_eq] at haffects
      obtain ⟨rfl, hrevoked⟩ := haffects
      obtain ⟨t, ht⟩ := Option.isSome_iff_exists.mp hrevoked
      obtain rfl := secret_of_find?_eq_some ht
      exact ⟨t, ht, .revokes rfl hrevoked⟩
  | purge now =>
      simp only [affects, Option.any_eq_true, decide_eq_true_eq] at haffects
      obtain ⟨t, ht, hexpired⟩ := haffects
      exact ⟨t, ht, .purges now rfl hexpired⟩
  | insert token => simp [affects, hinserted] at haffects
  | find secret => simp [affects, hinserted] at haffects
  | issue issuer draw user createdAt ttl => simp [affects, hinserted] at haffects
  | authenticate secret now => simp [affects, hinserted] at haffects

theorem find?_after_cases {e : Event} {secret : Secret}
    (hinserted : ∀ t, e.inserted? = some t → t.secret ≠ secret) :
    e.after.find? secret = e.before.find? secret ∨
      e.after.find? secret = none ∧ ∃ t, e.before.find? secret = some t ∧ e.Removes t := by
  rw [find?_after]
  by_cases haffects : e.affects secret
  · have hnone : e.inserted? = none := by
      apply Option.eq_none_iff_forall_ne_some.mpr
      intro t ht
      exact hinserted t ht (secret_of_affects haffects ht)
    rw [if_pos haffects]
    exact .inr ⟨hnone, removes_of_affects haffects hnone⟩
  · exact .inl (if_neg haffects)

end Event

theorem map_operation_events (s : MemoryStore) (operations : List Operation) :
    (s.events operations).map Event.operation = operations := by
  induction operations generalizing s with
  | nil => rfl
  | cons operation operations ih => rw [events, List.map_cons, ih]

theorem exists_of_events_eq_append_cons {s : MemoryStore} {operations : List Operation}
    {log rest : List Event} {e : Event} (h : s.events operations = log ++ e :: rest) :
    ∃ early late, operations = early ++ e.operation :: late ∧ s.events early = log ∧
      s.afterOperations early = e.before ∧ e.after.events late = rest := by
  induction log generalizing s operations with
  | nil =>
      rcases operations with _ | ⟨operation, operations⟩
      · cases h
      · cases h
        exact ⟨[], operations, rfl, rfl, rfl, rfl⟩
  | cons first log ih =>
      rcases operations with _ | ⟨operation, operations⟩
      · cases h
      · rw [events, List.cons_append, List.cons.injEq] at h
        obtain ⟨rfl, h⟩ := h
        obtain ⟨early, late, rfl, rfl, hbefore, hrest⟩ := ih h
        exact ⟨operation :: early, late, rfl, rfl, hbefore, hrest⟩

theorem find?_afterOperations_cases {s : MemoryStore} {operations : List Operation}
    {secret : Secret}
    (hinserted : ∀ e ∈ s.events operations, ∀ t, e.inserted? = some t → t.secret ≠ secret) :
    (s.afterOperations operations).find? secret = s.find? secret ∨
      (s.afterOperations operations).find? secret = none ∧
        ∃ t, s.find? secret = some t ∧ ∃ e ∈ s.events operations, e.Removes t := by
  induction operations generalizing s with
  | nil => exact .inl rfl
  | cons operation operations ih =>
      rw [events, List.forall_mem_cons] at hinserted
      obtain ⟨hfirst, hrest⟩ := hinserted
      rcases Event.find?_after_cases hfirst with hkept | ⟨hnone, t, ht, hremoves⟩
      · rcases ih hrest with hlast | ⟨hlast, t, ht, e, he, hremoves⟩
        · exact .inl (hlast.trans hkept)
        · exact .inr ⟨hlast, t, hkept ▸ ht, e, List.mem_cons_of_mem _ he, hremoves⟩
      -- Once the token is out, nothing of the rest of the run brings one back.
      · have hgone : (s.afterOperations (operation :: operations)).find? secret = none := by
          rcases ih hrest with hlast | ⟨hlast, -⟩
          · exact hlast.trans hnone
          · exact hlast
        exact .inr ⟨hgone, t, ht, _, List.mem_cons_self, hremoves⟩

theorem stage_status_le {s : MemoryStore} {operations : List Operation} {secret : Secret}
    {now later : Instant}
    (hinserted : ∀ e ∈ s.events operations, ∀ t, e.inserted? = some t → t.secret ≠ secret)
    (hle : now ≤ later) :
    (s.status secret now).stage ≤ ((s.afterOperations operations).status secret later).stage := by
  rcases find?_afterOperations_cases hinserted with hkept | ⟨hgone, t, ht, -⟩
  · rw [status, status, hkept]
    rcases s.find? secret with _ | t
    · exact le_refl _
    · exact t.stage_validate_le hle
  · rw [status, status, hgone, ht]
    rcases t.validate_cases now with hvalid | hexpired
    · simp [hvalid, TokenStatus.stage]
    · simp [hexpired, TokenStatus.stage]

theorem exists_revoke_of_status {s : MemoryStore} {operations : List Operation} {secret : Secret}
    {now : Instant}
    (hinserted : ∀ e ∈ s.events operations, ∀ t, e.inserted? = some t → t.secret ≠ secret)
    (hnow : ∀ present ∈ operations.filterMap Operation.now?, present ≤ now)
    (hvalid : s.status secret now = .valid)
    (hnotFound : (s.afterOperations operations).status secret now = .notFound) :
    ∃ e ∈ s.events operations,
      e.operation = .revoke secret ∧ (e.before.revoke secret).1 = true := by
  rcases find?_afterOperations_cases hinserted with hkept | ⟨-, t, ht, e, he, hremoves⟩
  · rw [status, hkept, ← status, hvalid] at hnotFound
    cases hnotFound
  obtain rfl := secret_of_find?_eq_some ht
  rw [status, ht, Option.elim_some] at hvalid
  refine ⟨e, he, ?_⟩
  cases hremoves with
  | revokes hoperation hrevoked => exact ⟨hoperation, hrevoked⟩
  | purges present hoperation hexpired =>
      -- A purge of this run comes no later than `now`, when the token is still valid.
      have hmem : e.operation ∈ operations := by
        rw [← map_operation_events s operations]
        exact List.mem_map_of_mem he
      have hle : present ≤ now :=
        hnow present (List.mem_filterMap.mpr ⟨e.operation, hmem, by rw [hoperation]; rfl⟩)
      rw [AuthToken.validate, TokenStatus.ofWindow_eq_valid_of_le hle hvalid] at hexpired
      cases hexpired

theorem checks_move_forward (s : MemoryStore) (operations : List Operation) (secret : Secret)
    (hinserted : ∀ e ∈ s.events operations, ∀ t, e.inserted? = some t → t.secret ≠ secret)
    (htimes : (operations.filterMap Operation.now?).Pairwise (· ≤ ·)) :
    (∀ e ∈ s.events operations, ∀ now, e.operation = .authenticate secret now →
        ∃ status, e.Answers secret now status) ∧
      ∀ (early between late : List Event) (first second : Event),
        s.events operations = early ++ first :: (between ++ second :: late) →
        ∀ now later status status', first.Answers secret now status →
          second.Answers secret later status' →
            status.stage ≤ status'.stage ∧
              (now = later → status = .valid → status' = .notFound →
                ∃ e ∈ between,
                  e.operation = .revoke secret ∧ (e.before.revoke secret).1 = true) := by
  constructor
  · intro e _ now hoperation
    exact ⟨_, Event.answers_iff.mpr ⟨hoperation, rfl⟩⟩
  intro early between late first second hlog now later status status' hfirst hsecond
  rw [Event.answers_iff] at hfirst hsecond
  obtain ⟨hfirst, rfl⟩ := hfirst
  obtain ⟨hsecond, rfl⟩ := hsecond
  have hbetween : ∀ e ∈ between, ∀ t, e.inserted? = some t → t.secret ≠ secret := by
    intro e he
    exact hinserted e (by simp [hlog, he])
  obtain ⟨earlier, rest, rfl, -, -, hrest⟩ := exists_of_events_eq_append_cons hlog
  obtain ⟨middle, last, rfl, rfl, hbefore, -⟩ := exists_of_events_eq_append_cons hrest
  rw [Event.after_of_authenticate hfirst] at hbefore hbetween ⊢
  simp only [hfirst, hsecond, List.filterMap_append, List.filterMap_cons, Operation.now?,
    List.pairwise_append, List.pairwise_cons, List.mem_append, List.mem_cons] at htimes
  obtain ⟨-, ⟨hnext, -, -, hmiddle⟩, -⟩ := htimes
  have hle : now ≤ later := hnext later (.inr (.inl rfl))
  have hnow : ∀ present ∈ middle.filterMap Operation.now?, present ≤ later :=
    fun present hpresent => hmiddle present hpresent later (.inl rfl)
  rw [← hbefore]
  refine ⟨stage_status_le hbetween hle, ?_⟩
  rintro rfl hvalid hnotFound
  exact exists_revoke_of_status hbetween hnow hvalid hnotFound

theorem checks_move_forward_past_revocation :
    let held : AuthToken := ⟨.generate fun _ => 0, ⟨⟨0⟩⟩, .beforeLast, some 1⟩
    let other : AuthToken := ⟨.generate fun _ => 1, ⟨⟨0⟩⟩, .beforeLast, some 0⟩
    let s : MemoryStore := ⟨[held], List.nodup_singleton _⟩
    let operations : List Operation := [.authenticate held.secret .last, .insert other,
      .purge .last, .revoke held.secret, .authenticate held.secret .last]
    (∀ e ∈ s.events operations, ∀ t, e.inserted? = some t → t.secret ≠ held.secret) ∧
      (operations.filterMap Operation.now?).Pairwise (· ≤ ·) ∧
      ∃ (first : Event) (between : List Event) (second : Event),
        s.events operations = first :: (between ++ [second]) ∧
        first.Answers held.secret .last .valid ∧ second.Answers held.secret .last .notFound ∧
        ∃ e ∈ between, e.operation = .revoke held.secret ∧
          (e.before.revoke held.secret).1 = true := by
  intro held other s operations
  have hsecret : other.secret ≠ held.secret := by
    decide +kernel
  have hinserted : ∀ e ∈ s.events operations, ∀ t, e.inserted? = some t →
      t.secret ≠ held.secret := by
    intro e he t ht
    simp only [operations, events, List.mem_cons, List.not_mem_nil, or_false] at he
    rcases he with rfl | rfl | rfl | rfl | rfl
    · cases ht
    · rw [Event.inserted?, Option.map_eq_some_iff] at ht
      obtain ⟨-, -, rfl⟩ := ht
      exact hsecret
    · cases ht
    · cases ht
    · cases ht
  have htimes : (operations.filterMap Operation.now?).Pairwise (· ≤ ·) := by
    decide +kernel
  let later := s.afterOperations (operations.take 4)
  have hvalid : s.status held.secret .last = .valid := by
    decide +kernel
  have hnotFound : later.status held.secret .last = .notFound := by
    decide +kernel
  let first : Event := ⟨s, .authenticate held.secret .last⟩
  let second : Event := ⟨later, .authenticate held.secret .last⟩
  have hfirst : first.Answers held.secret .last .valid := Event.answers_iff.mpr ⟨rfl, hvalid⟩
  have hsecond : second.Answers held.secret .last .notFound :=
    Event.answers_iff.mpr ⟨rfl, hnotFound⟩
  have hlog : s.events operations = [] ++ first :: ([_, _, _] ++ second :: []) := rfl
  obtain ⟨-, hforward⟩ := checks_move_forward s operations held.secret hinserted htimes
  obtain ⟨-, hrevoke⟩ := hforward _ _ _ _ _ hlog _ _ _ _ hfirst hsecond
  exact ⟨hinserted, htimes, _, _, _, hlog, hfirst, hsecond, hrevoke rfl rfl rfl⟩

end MemoryStore

end Snowflake
