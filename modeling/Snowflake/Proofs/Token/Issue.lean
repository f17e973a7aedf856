import Snowflake.Proofs.Time.Instant
import Snowflake.Proofs.Token.Store

/-!
Issues draw by draw. An issue inserts one draw after another, up to the first insert that does not
end in a conflict or to its last attempt. It draws nothing that it does not insert, it changes a
store in memory by one record or not at all, and it never counts its attempts past 32 bits.
-/

namespace Snowflake

namespace TokenStore

variable {σ : Type} (store : TokenStore σ) (record : Nat → AuthToken) (s : σ)

/-- The store after the inserts of the first records. -/
def afterInserts : Nat → σ
  | 0 => s
  | n + 1 => (store.insert (record n) (afterInserts n)).2

/-- The answer to the insert of record number `n`, after those before it. -/
def answerAt (n : Nat) : Except StoreError Unit :=
  (store.insert (record n) (store.afterInserts record s n)).1

/-- Of `bound` attempts number `n` is not tried again: it is not in conflict, or it is the last. -/
def Settles (bound n : Nat) : Prop :=
  store.answerAt record s n ≠ .error .tokenConflict ∨ bound ≤ n + 1

theorem exists_settles (bound : Nat) :
    ∃ n, (∀ j < n, ¬ store.Settles record s bound j) ∧ store.Settles record s bound n := by
  classical
  have hexists : ∃ n, store.Settles record s bound n := ⟨bound, .inr (Nat.le_succ bound)⟩
  exact ⟨Nat.find hexists, fun _ => Nat.find_min hexists, Nat.find_spec hexists⟩

section Congr

variable {record} {record' : Nat → AuthToken} {n : Nat}

theorem afterInserts_congr (h : ∀ j < n, record' j = record j) :
    store.afterInserts record' s n = store.afterInserts record s n := by
  induction n with
  | zero => rfl
  | succ n ih =>
      rw [afterInserts, afterInserts, ih fun j hj => h j (Nat.lt_succ_of_lt hj),
        h n (Nat.lt_succ_self n)]

theorem answerAt_congr (h : ∀ j < n + 1, record' j = record j) :
    store.answerAt record' s n = store.answerAt record s n := by
  rw [answerAt, answerAt, h n (Nat.lt_succ_self n),
    store.afterInserts_congr s fun j hj => h j (Nat.lt_succ_of_lt hj)]

theorem settles_congr (h : ∀ j < n + 1, record' j = record j) (bound : Nat) :
    store.Settles record' s bound n ↔ store.Settles record s bound n := by
  rw [Settles, Settles, store.answerAt_congr s h]

end Congr

end TokenStore

namespace Issuer

/-- The records that an issue tries to insert, one for each draw. -/
def records (draw : Nat → Secret) (user : UserId) (createdAt : Instant) (ttl : Option UInt64)
    (n : Nat) : AuthToken :=
  ⟨draw n, user, createdAt, ttl⟩

/-- The attempt after this one, if 32 bits can count it. -/
def attemptAfter? (attempt : UInt32) : Option UInt32 :=
  if attempt.toNat + 1 < 2 ^ 32 then some (.ofNat (attempt.toNat + 1)) else none

theorem attemptAfter?_eq_some_iff {attempt next : UInt32} :
    attemptAfter? attempt = some next ↔ next.toNat = attempt.toNat + 1 := by
  rw [attemptAfter?, Option.ite_none_right_eq_some, Option.some_inj]
  constructor
  · rintro ⟨hlt, rfl⟩
    exact UInt32.toNat_ofNat_of_lt' hlt
  · intro h
    rw [← h]
    exact ⟨next.toNat_lt, UInt32.ofNat_toNat⟩

variable {σ : Type} (issuer : Issuer) (store : TokenStore σ) (draw : Nat → Secret) (user : UserId)
  (createdAt : Instant) (ttl : Option UInt64)

/-- `issueFrom`, with the exact successor of the attempt, and without a result where that does not
fit. -/
def issueFromExact? (attempt : UInt32) (drawn : Nat) (s : σ) : Option (Issued σ) :=
  let token : AuthToken := ⟨draw drawn, user, createdAt, ttl⟩
  match store.insert token s with
  | (.ok _, s') => some ⟨.ok token, s', drawn + 1⟩
  | (.error .tokenConflict, s') =>
      if attempt < issuer.maxAttempts then
        match hnext : attemptAfter? attempt with
        | some next => issueFromExact? next (drawn + 1) s'
        | none => none
      else some ⟨.error .tokenConflict, s', drawn + 1⟩
  | (.error e, s') => some ⟨.error e, s', drawn + 1⟩
termination_by issuer.maxAttempts.toNat - attempt.toNat
decreasing_by
  rename_i hlt
  rw [UInt32.lt_iff_toNat_lt] at hlt
  rw [attemptAfter?_eq_some_iff] at hnext
  omega

def issueExact? (s : σ) : Option (Issued σ) :=
  issuer.issueFromExact? store draw user createdAt ttl 1 0 s

theorem issueFromExact?_eq (attempt : UInt32) (drawn : Nat) (s : σ) :
    issuer.issueFromExact? store draw user createdAt ttl attempt drawn s =
      some (issuer.issueFrom store draw user createdAt ttl attempt drawn s) := by
  fun_induction issueFrom issuer store draw user createdAt ttl attempt drawn s
  case case1 token _ s' hinsert =>
    simp only [token] at hinsert
    rw [issueFromExact?]
    simp only [hinsert, token]
  case case2 token s' hinsert hlt ih =>
    simp only [token] at hinsert
    have hnext := attemptAfter?_eq_some_iff.mpr (toNat_succ hlt)
    rw [issueFromExact?, ← ih]
    simp only [hinsert, if_pos hlt]
    split
    · rename_i next hnext'
      obtain rfl := Option.some_inj.mp (hnext'.symm.trans hnext)
      rfl
    · rename_i hnone
      rw [hnone] at hnext
      cases hnext
  case case3 token s' hinsert hlt =>
    simp only [token] at hinsert
    rw [issueFromExact?]
    simp only [hinsert, if_neg hlt]
  case case4 token e s' hother hinsert =>
    simp only [token] at hinsert
    rw [issueFromExact?]
    cases e with
    | tokenConflict => exact absurd rfl hother
    | handleTaken handle => simp only [hinsert]
    | unknownUser user => simp only [hinsert]

section Step

variable {issuer store draw user createdAt ttl} {attempt : UInt32} {drawn : Nat} {s s' : σ}

theorem issueFrom_of_conflict
    (hinsert : store.insert (records draw user createdAt ttl drawn) s = (.error .tokenConflict, s'))
    (hlt : attempt < issuer.maxAttempts) :
    issuer.issueFrom store draw user createdAt ttl attempt drawn s =
      issuer.issueFrom store draw user createdAt ttl (attempt + 1) (drawn + 1) s' := by
  rw [issueFrom]
  rw [records] at hinsert
  simp only [hinsert, dif_pos hlt]

theorem issueFrom_of_settled {answer : Except StoreError Unit}
    (hinsert : store.insert (records draw user createdAt ttl drawn) s = (answer, s'))
    (hsettled : answer ≠ .error .tokenConflict ∨ ¬ attempt < issuer.maxAttempts) :
    issuer.issueFrom store draw user createdAt ttl attempt drawn s =
      ⟨answer.map fun _ => records draw user createdAt ttl drawn, s', drawn + 1⟩ := by
  rw [issueFrom]
  rw [records] at hinsert
  rcases answer with e | _
  · cases e with
    | tokenConflict =>
        have hlast := hsettled.resolve_left (not_not_intro rfl)
        simp only [hinsert, dif_neg hlast]
        rfl
    | handleTaken handle =>
        simp only [hinsert]
        rfl
    | unknownUser user =>
        simp only [hinsert]
        rfl
  · simp only [hinsert]
    rfl

end Step

section Run

variable {issuer store draw user createdAt ttl} {s : σ} {n : Nat}

/-- As long as no attempt settles the issue, its counter is one ahead of the number of draws. -/
theorem exists_issue_eq_issueFrom
    (hgoes : ∀ j < n, ¬ store.Settles (records draw user createdAt ttl) s
      issuer.maxAttempts.toNat j) :
    ∃ attempt : UInt32, attempt.toNat = n + 1 ∧
      issuer.issue store draw user createdAt ttl s =
        issuer.issueFrom store draw user createdAt ttl attempt n
          (store.afterInserts (records draw user createdAt ttl) s n) := by
  induction n with
  | zero => exact ⟨1, rfl, rfl⟩
  | succ n ih =>
      obtain ⟨attempt, hattempt, hissue⟩ := ih fun j hj => hgoes j (Nat.lt_succ_of_lt hj)
      have hconflict := hgoes n (Nat.lt_succ_self n)
      rw [TokenStore.Settles, not_or, not_not] at hconflict
      have hlt : attempt < issuer.maxAttempts := UInt32.lt_iff_toNat_lt.mpr (by omega)
      refine ⟨attempt + 1, by rw [toNat_succ hlt, hattempt], hissue.trans ?_⟩
      exact issueFrom_of_conflict (Prod.ext hconflict.1 rfl) hlt

theorem issue_of_settles
    (hgoes : ∀ j < n, ¬ store.Settles (records draw user createdAt ttl) s
      issuer.maxAttempts.toNat j)
    (hsettles : store.Settles (records draw user createdAt ttl) s issuer.maxAttempts.toNat n) :
    issuer.issue store draw user createdAt ttl s =
      ⟨(store.answerAt (records draw user createdAt ttl) s n).map
          fun _ => records draw user createdAt ttl n,
        store.afterInserts (records draw user createdAt ttl) s (n + 1), n + 1⟩ := by
  obtain ⟨attempt, hattempt, hissue⟩ := exists_issue_eq_issueFrom hgoes
  rw [hissue]
  refine issueFrom_of_settled rfl (hsettles.imp_right fun hlast => ?_)
  rw [UInt32.lt_iff_toNat_lt]
  omega

/-- Draws beyond those counted are not looked at. -/
theorem issue_congr {draw' : Nat → Secret}
    (h : ∀ j < (issuer.issue store draw user createdAt ttl s).draws, draw' j = draw j) :
    issuer.issue store draw' user createdAt ttl s =
      issuer.issue store draw user createdAt ttl s := by
  obtain ⟨n, hgoes, hsettles⟩ :=
    store.exists_settles (records draw user createdAt ttl) s issuer.maxAttempts.toNat
  rw [issue_of_settles hgoes hsettles] at h ⊢
  have hrecords : ∀ j < n + 1,
      records draw' user createdAt ttl j = records draw user createdAt ttl j := by
    intro j hj
    rw [records, records, h j hj]
  have hgoes' : ∀ j < n, ¬ store.Settles (records draw' user createdAt ttl) s
      issuer.maxAttempts.toNat j := by
    intro j hj
    rw [store.settles_congr s fun i hi => hrecords i (by omega)]
    exact hgoes j hj
  rw [issue_of_settles hgoes' ((store.settles_congr s hrecords _).mpr hsettles),
    store.answerAt_congr s hrecords, store.afterInserts_congr s hrecords,
    hrecords n (Nat.lt_succ_self n)]

theorem issue_of_error {e : StoreError} (hn : n < issuer.maxAttempts.toNat)
    (hbefore : ∀ j < n, store.answerAt (records draw user createdAt ttl) s j =
      .error .tokenConflict)
    (herror : store.answerAt (records draw user createdAt ttl) s n = .error e)
    (he : e ≠ .tokenConflict) :
    issuer.issue store draw user createdAt ttl s =
      ⟨.error e, store.afterInserts (records draw user createdAt ttl) s (n + 1), n + 1⟩ := by
  have hgoes : ∀ j < n, ¬ store.Settles (records draw user createdAt ttl) s
      issuer.maxAttempts.toNat j := by
    rintro j hj (hsettled | hlast)
    · exact hsettled (hbefore j hj)
    · omega
  have hsettles : store.Settles (records draw user createdAt ttl) s issuer.maxAttempts.toNat n :=
    .inl fun hconflict => he (Except.error.inj (herror.symm.trans hconflict))
  rw [issue_of_settles hgoes hsettles, herror]
  rfl

end Run

section Memory

variable {issuer draw user createdAt ttl} {s : MemoryStore} {n : Nat}

/-- As long as every draw is taken, nothing is inserted. -/
theorem afterInserts_of_taken (h : ∀ j < n, (s.find? (draw j)).isSome) :
    MemoryStore.tokenStore.afterInserts (records draw user createdAt ttl) s n = s := by
  induction n with
  | zero => rfl
  | succ n ih =>
      obtain ⟨taken, htaken⟩ := Option.isSome_iff_exists.mp (h n (Nat.lt_succ_self n))
      rw [TokenStore.afterInserts, ih fun j hj => h j (Nat.lt_succ_of_lt hj)]
      exact congrArg Prod.snd (MemoryStore.insert_of_find?_eq_some htaken)

theorem answerAt_of_taken (h : ∀ j < n + 1, (s.find? (draw j)).isSome) :
    MemoryStore.tokenStore.answerAt (records draw user createdAt ttl) s n =
      .error .tokenConflict := by
  obtain ⟨taken, htaken⟩ := Option.isSome_iff_exists.mp (h n (Nat.lt_succ_self n))
  rw [TokenStore.answerAt, afterInserts_of_taken fun j hj => h j (Nat.lt_succ_of_lt hj)]
  exact congrArg Prod.fst (MemoryStore.insert_of_find?_eq_some htaken)

theorem not_settles_of_taken (h : ∀ j < n, (s.find? (draw j)).isSome)
    (hn : n < issuer.maxAttempts.toNat) :
    ∀ j < n, ¬ MemoryStore.tokenStore.Settles (records draw user createdAt ttl) s
      issuer.maxAttempts.toNat j := by
  rintro j hj (hsettled | hlast)
  · exact hsettled (answerAt_of_taken fun i hi => h i (by omega))
  · omega

theorem issue_of_free (hn : n < issuer.maxAttempts.toNat)
    (htaken : ∀ j < n, (s.find? (draw j)).isSome) (hfree : s.find? (draw n) = none) :
    ∃ s', issuer.issue MemoryStore.tokenStore draw user createdAt ttl s =
        ⟨.ok (records draw user createdAt ttl n), s', n + 1⟩ ∧
      s'.tokens = records draw user createdAt ttl n :: s.tokens := by
  obtain ⟨s', hinsert, htokens⟩ :=
    MemoryStore.insert_of_find?_eq_none (t := records draw user createdAt ttl n) hfree
  have hinsert' : MemoryStore.tokenStore.insert (records draw user createdAt ttl n)
      (MemoryStore.tokenStore.afterInserts (records draw user createdAt ttl) s n) =
        (.ok (), s') := by
    rw [afterInserts_of_taken htaken]
    exact hinsert
  have hanswer : MemoryStore.tokenStore.answerAt (records draw user createdAt ttl) s n = .ok () :=
    congrArg Prod.fst hinsert'
  refine ⟨s', ?_, htokens⟩
  rw [issue_of_settles (not_settles_of_taken htaken hn) (.inl (by rw [hanswer]; nofun)), hanswer,
    TokenStore.afterInserts, hinsert']
  rfl

theorem issue_of_taken (hn : 0 < issuer.maxAttempts.toNat)
    (htaken : ∀ j < issuer.maxAttempts.toNat, (s.find? (draw j)).isSome) :
    issuer.issue MemoryStore.tokenStore draw user createdAt ttl s =
      ⟨.error .tokenConflict, s, issuer.maxAttempts.toNat⟩ := by
  obtain ⟨n, hlast⟩ := Nat.exists_eq_add_one_of_ne_zero (Nat.ne_of_gt hn)
  have htaken' : ∀ j < n + 1, (s.find? (draw j)).isSome := by rwa [hlast] at htaken
  have hgoes : ∀ j < n, ¬ MemoryStore.tokenStore.Settles (records draw user createdAt ttl) s
      issuer.maxAttempts.toNat j :=
    not_settles_of_taken (fun j hj => htaken' j (Nat.lt_succ_of_lt hj)) (by omega)
  rw [issue_of_settles hgoes (.inr hlast.le), answerAt_of_taken htaken',
    afterInserts_of_taken htaken', hlast]
  rfl

end Memory

theorem toNat_maxAttempts_withMaxAttempts (m : UInt32) :
    (withMaxAttempts m).maxAttempts.toNat = max m.toNat 1 := by
  have hone : (1 : UInt32).toNat = 1 := rfl
  simp only [withMaxAttempts, UInt32.lt_iff_toNat_lt, hone]
  split <;> omega

/-- An issue draws until a draw is free, at most as often as it may and always once. It stores the
record of that draw and nothing else, and without a free draw nothing at all. From any store it
passes on the first error that is no conflict, and makes no further draw. It looks at no draw but
those it counts, and counts its attempts exactly, whatever their number. -/
theorem issue_inserts_first_free (m : UInt32) (draw : Nat → Secret) (user : UserId)
    (createdAt : Instant) (ttl : Option UInt64) :
    let issuer := withMaxAttempts m
    let bound := max m.toNat 1
    let record (n : Nat) : AuthToken := ⟨draw n, user, createdAt, ttl⟩
    (∀ (s : MemoryStore) (n : Nat), n < bound → IsLeast {n | s.find? (draw n) = none} n →
      ∃ s', issuer.issue MemoryStore.tokenStore draw user createdAt ttl s =
          ⟨.ok (record n), s', n + 1⟩ ∧
        s'.tokens = record n :: s.tokens ∧
        ∀ secret, s'.find? secret = if draw n = secret then some (record n) else s.find? secret) ∧
    (∀ s : MemoryStore, (∀ n < bound, (s.find? (draw n)).isSome) →
      issuer.issue MemoryStore.tokenStore draw user createdAt ttl s =
        ⟨.error .tokenConflict, s, bound⟩) ∧
    ∀ (σ : Type) (store : TokenStore σ) (s : σ),
      (∀ n < bound, (∀ j < n, store.answerAt record s j = .error .tokenConflict) →
        ∀ e, store.answerAt record s n = .error e → e ≠ .tokenConflict →
          issuer.issue store draw user createdAt ttl s =
            ⟨.error e, store.afterInserts record s (n + 1), n + 1⟩) ∧
      (∀ draw', (∀ j < (issuer.issue store draw user createdAt ttl s).draws, draw' j = draw j) →
        issuer.issue store draw' user createdAt ttl s =
          issuer.issue store draw user createdAt ttl s) ∧
      issuer.issueExact? store draw user createdAt ttl s =
        some (issuer.issue store draw user createdAt ttl s) := by
  intro issuer bound record
  have hbound : issuer.maxAttempts.toNat = bound := toNat_maxAttempts_withMaxAttempts m
  rw [← hbound]
  refine ⟨?_, ?_, fun σ store s => ⟨?_, fun _ => issue_congr, issueFromExact?_eq ..⟩⟩
  · rintro s n hn ⟨hfree, hleast⟩
    have htaken : ∀ j < n, (s.find? (draw j)).isSome := by
      intro j hj
      rw [Option.isSome_iff_ne_none]
      exact fun hnone => absurd (hleast hnone) (Nat.not_le.mpr hj)
    obtain ⟨s', hissue, htokens⟩ := issue_of_free hn htaken hfree
    exact ⟨s', hissue, htokens, MemoryStore.find?_of_tokens_eq_cons htokens⟩
  · intro s htaken
    exact issue_of_taken (by omega) htaken
  · intro n hn hbefore e herror he
    exact issue_of_error hn hbefore herror he

/-- A draw that is taken and one that is free, with three attempts and with one, and a store that
knows no users. -/
theorem issue_inserts_first_free_after_conflict :
    let taken : Secret := .generate fun _ => 0
    let free : Secret := .generate fun _ => 1
    let draw (n : Nat) : Secret := if n = 0 then taken else free
    let user : UserId := ⟨⟨1⟩⟩
    let held : AuthToken := ⟨taken, ⟨⟨9⟩⟩, .last, none⟩
    let record : AuthToken := ⟨free, user, .last, some 60⟩
    let s : MemoryStore := ⟨[held], List.nodup_singleton _⟩
    let strict : TokenStore Unit :=
      ⟨fun _ s => (.error (.unknownUser user), s), fun _ s => (.ok none, s)⟩
    IsLeast {n | s.find? (draw n) = none} 1 ∧
      (∃ s', (withMaxAttempts 3).issue MemoryStore.tokenStore draw user .last (some 60) s =
        ⟨.ok record, s', 2⟩ ∧ s'.tokens = [record, held]) ∧
      (withMaxAttempts 0).issue MemoryStore.tokenStore draw user .last (some 60) s =
        ⟨.error .tokenConflict, s, 1⟩ ∧
      (withMaxAttempts 0xFFFFFFFF).issue strict draw user .last (some 60) () =
        ⟨.error (.unknownUser user), (), 1⟩ := by
  intro taken free draw user held record s strict
  have htaken : (s.find? (draw 0)).isSome := by decide +kernel
  have hfree : s.find? (draw 1) = none := by decide +kernel
  have hleast : IsLeast {n | s.find? (draw n) = none} 1 := by
    refine ⟨hfree, fun n hn => Nat.one_le_iff_ne_zero.mpr ?_⟩
    rintro rfl
    exact Option.isSome_iff_ne_none.mp htaken hn
  obtain ⟨hthree, -, -⟩ := issue_inserts_first_free 3 draw user .last (some 60)
  obtain ⟨-, hone, -⟩ := issue_inserts_first_free 0 draw user .last (some 60)
  obtain ⟨-, -, hany⟩ := issue_inserts_first_free 0xFFFFFFFF draw user .last (some 60)
  obtain ⟨s', hissue, htokens, -⟩ := hthree s 1 (by decide) hleast
  refine ⟨hleast, ⟨s', hissue, htokens⟩, hone s fun n hn => ?_, ?_⟩
  · obtain rfl : n = 0 := Nat.lt_one_iff.mp hn
    exact htaken
  · exact (hany Unit strict ()).1 0 (by decide) nofun (.unknownUser user) rfl nofun

end Issuer

end Snowflake
