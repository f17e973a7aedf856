import Snowflake.Proofs.Generator.Call

/-!
Waiting. A poll has to wait when its millisecond is used up or the clock is behind the last one. A
call goes on while its turns wait, and its first turn that does not wait is its end.
-/

namespace Snowflake

theorem Config.clampWait_eq_max (wait : Span) : clampWait wait = max wait minWaitTimeout := by
  change (if wait < minWaitTimeout then minWaitTimeout else wait) =
    if wait ≤ minWaitTimeout then minWaitTimeout else wait
  by_cases hlt : wait < minWaitTimeout
  · have hle : wait ≤ minWaitTimeout := Nat.le_of_lt hlt
    rw [if_pos hlt, if_pos hle]
  rw [if_neg hlt]
  split
  · rename_i hle
    have hnanos : wait.nanos = minWaitTimeout.nanos := Nat.le_antisymm hle (Nat.not_lt.mp hlt)
    cases wait
    cases hnanos
    rfl
  · rfl

theorem Config.minWaitTimeout_le_clampWait (wait : Span) : minWaitTimeout ≤ clampWait wait := by
  rw [clampWait]
  split
  · exact Nat.le_refl _
  · rename_i h
    exact Nat.not_lt.mp h

namespace Generator

/-- However often a wait was clamped before, a generator waits for the greater of it and a
millisecond. -/
theorem waitTimeout_resume (counter : Counter) (c : Config) :
    (resume c counter).waitTimeout = max c.waitTimeout Config.minWaitTimeout :=
  Config.clampWait_eq_max c.waitTimeout

section Turn

variable {g g' : Generator} {now y : UInt64} {elapsed : Span}

theorem turn_eq_waiting_iff :
    g.turn now elapsed = (.waiting y, g') ↔
      g.poll now = (.ok (.pending y), g') ∧ ¬ g.waitTimeout ≤ elapsed := by
  constructor
  · intro h
    have hturns := g.turns now elapsed
    rw [h] at hturns
    cases hturns with
    | waiting hpoll htimeout => exact ⟨hpoll, htimeout⟩
  · rintro ⟨hpoll, htimeout⟩
    exact turn_of_pending hpoll htimeout

theorem turn_eq_timeout_iff :
    g.turn now elapsed = (.ended (.error (.waitTimeout y)), g') ↔
      g.poll now = (.ok (.pending y), g') ∧ g.waitTimeout ≤ elapsed := by
  constructor
  · intro h
    have hturns := g.turns now elapsed
    rw [h] at hturns
    cases hturns with
    | failed hpoll => exact absurd hpoll poll_ne_waitTimeout
    | timeout hpoll htimeout => exact ⟨hpoll, htimeout⟩
  · rintro ⟨hpoll, htimeout⟩
    exact turn_of_timeout hpoll htimeout

end Turn

/-- Turn `k` is the first that ends the call, and `o` is its outcome. -/
structure EndsAt (g : Generator) (clock : Nat → UInt64) (elapsed : Nat → Span) (k : Nat)
    (o : Outcome Flake) : Prop where
  waits : ∀ j < k, ∃ y, g.turn (clock j) (elapsed j) = (.waiting y, g)
  turn_eq : g.turn (clock k) (elapsed k) = (.ended o.result, o.generator)
  polls_eq : o.polls = k + 1

section Generate

variable {g : Generator} {clock : Nat → UInt64} {elapsed : Nat → Span} {limit : Nat}
  {o : Outcome Flake}

theorem endsAt_of_generateFrom {i : Nat}
    (hwaits : ∀ j < i, ∃ y, g.turn (clock j) (elapsed j) = (.waiting y, g))
    (h : generateFrom clock elapsed limit i g = some o) :
    ∃ k, k < i + limit ∧ g.EndsAt clock elapsed k o := by
  induction limit generalizing i with
  | zero => cases h
  | succ limit ih =>
      rcases g.turn_cases (clock i) (elapsed i) with ⟨y, hturn⟩ | ⟨r, hturn, -⟩
      · have hwaits' : ∀ j < i + 1, ∃ y, g.turn (clock j) (elapsed j) = (.waiting y, g) := by
          intro j hj
          rcases Nat.lt_succ_iff_lt_or_eq.mp hj with hj | rfl
          · exact hwaits j hj
          · exact ⟨y, hturn⟩
        simp only [generateFrom, hturn] at h
        obtain ⟨k, hlt, hends⟩ := ih hwaits' h
        exact ⟨k, by omega, hends⟩
      · simp only [generateFrom, hturn, Option.some.injEq] at h
        subst o
        exact ⟨i, by omega, hwaits, hturn, rfl⟩

theorem EndsAt.generateFrom_eq {i k : Nat} (h : g.EndsAt clock elapsed k o) (hle : i ≤ k)
    (hlt : k < i + limit) : generateFrom clock elapsed limit i g = some o := by
  induction limit generalizing i with
  | zero => omega
  | succ limit ih =>
      rcases Nat.lt_or_eq_of_le hle with hless | rfl
      · obtain ⟨y, hturn⟩ := h.waits i hless
        simp only [generateFrom, hturn]
        exact ih hless (by omega)
      · simp only [generateFrom, h.turn_eq, ← h.polls_eq]

theorem generate_eq_some_iff :
    g.generate clock elapsed limit = some o ↔ ∃ k < limit, g.EndsAt clock elapsed k o := by
  constructor
  · intro h
    obtain ⟨k, hlt, hends⟩ := endsAt_of_generateFrom (fun j hj => absurd hj (Nat.not_lt_zero j)) h
    exact ⟨k, by omega, hends⟩
  · rintro ⟨k, hlt, hends⟩
    exact hends.generateFrom_eq (Nat.zero_le k) (by omega)

variable (g clock elapsed) in
/-- The call is given up because it has waited for too long. -/
def TimesOut : Prop :=
  ∃ limit o y, g.generate clock elapsed limit = some o ∧ o.result = .error (.waitTimeout y)

theorem timesOut_iff :
    g.TimesOut clock elapsed ↔
      ∃ k, (∀ j ≤ k, ∃ y, g.poll (clock j) = (.ok (.pending y), g)) ∧
        g.waitTimeout ≤ elapsed k := by
  constructor
  · rintro ⟨limit, o, y, hcall, hresult⟩
    obtain ⟨k, -, hends⟩ := generate_eq_some_iff.mp hcall
    have hturn := hends.turn_eq
    rw [hresult, turn_eq_timeout_iff] at hturn
    obtain ⟨hpoll, htimeout⟩ := hturn
    refine ⟨k, ?_, htimeout⟩
    intro j hj
    rcases Nat.lt_or_eq_of_le hj with hj | rfl
    · obtain ⟨y', hwaiting⟩ := hends.waits j hj
      exact ⟨y', (turn_eq_waiting_iff.mp hwaiting).1⟩
    · rw [(poll_eq_pending_iff.mp hpoll).1] at hpoll
      exact ⟨y, hpoll⟩
  -- Of the checks that find the timeout reached, the first one ends the call.
  · rintro ⟨k, hpending, htimeout⟩
    have hexists : ∃ i, g.waitTimeout ≤ elapsed i := ⟨k, htimeout⟩
    have hfirst : Nat.find hexists ≤ k := Nat.find_le htimeout
    obtain ⟨y, hpoll⟩ := hpending (Nat.find hexists) hfirst
    refine ⟨_, ⟨.error (.waitTimeout y), Nat.find hexists + 1, g⟩, y,
      generate_eq_some_iff.mpr ⟨_, Nat.lt_succ_self _, ?_, ?_, rfl⟩, rfl⟩
    · intro j hj
      obtain ⟨y', hpoll'⟩ := hpending j (by omega)
      exact ⟨y', turn_of_pending hpoll' (Nat.find_min hexists hj)⟩
    · exact turn_of_timeout hpoll (Nat.find_spec hexists)

end Generate

theorem toNat_sleepMillis (yieldUntil now : UInt64) :
    (sleepMillis yieldUntil now).toNat = max 1 (yieldUntil.toNat - now.toNat) := by
  have hahead : (if now < yieldUntil then yieldUntil - now else 0).toNat =
      yieldUntil.toNat - now.toNat := by
    split
    · rename_i h
      exact UInt64.toNat_sub_of_le _ _ (UInt64.le_of_lt h)
    · rename_i h
      rw [UInt64.lt_iff_toNat_lt] at h
      exact (Nat.sub_eq_zero_of_le (Nat.not_lt.mp h)).symm
  rw [sleepMillis, ← hahead]
  generalize (if now < yieldUntil then yieldUntil - now else 0) = ahead
  have hone : (1 : UInt64).toNat = 1 := by decide
  by_cases h : ahead < 1
  · rw [if_pos h, hone]
    rw [UInt64.lt_iff_toNat_lt, hone] at h
    omega
  · rw [if_neg h]
    rw [UInt64.lt_iff_toNat_lt, hone] at h
    omega

/-- Each sleep follows a turn that waits, and is as long as its hint is ahead of the clock. -/
def Sleeps (g : Generator) (world : Surroundings) (sleeps : List UInt64) : Prop :=
  ∀ earlier s, earlier ++ [s] <+: sleeps →
    ∃ y, g.turn (world.clock earlier) (world.elapsed earlier) = (.waiting y, g) ∧
      s = sleepMillis y (world.wake earlier)

/-- The turn after `sleeps` ends the call, and `o` is its outcome. -/
structure EndsAfter (g : Generator) (world : Surroundings) (sleeps : List UInt64)
    (o : Outcome Flake) : Prop where
  waits : g.Sleeps world sleeps
  turn_eq : g.turn (world.clock sleeps) (world.elapsed sleeps) = (.ended o.result, o.generator)
  polls_eq : o.polls = sleeps.length + 1

section Sleeping

variable {g : Generator} {world : Surroundings} {limit : Nat} {sleeps all : List UInt64}
  {o : Outcome Flake}

theorem sleeps_nil : g.Sleeps world [] := by
  intro earlier s h
  have hlength := h.length_le
  simp at hlength

theorem Sleeps.concat {y : UInt64} (h : g.Sleeps world sleeps)
    (hturn : g.turn (world.clock sleeps) (world.elapsed sleeps) = (.waiting y, g)) :
    g.Sleeps world (sleeps ++ [sleepMillis y (world.wake sleeps)]) := by
  intro earlier s hinit
  rcases List.prefix_concat_iff.mp hinit with heq | hinit
  · obtain ⟨rfl, hs⟩ := List.append_inj' heq rfl
    cases hs
    exact ⟨y, hturn, rfl⟩
  · exact h earlier s hinit

theorem endsAfter_of_generateSleepingFrom (hsleeps : g.Sleeps world sleeps)
    (h : generateSleepingFrom world limit sleeps g = some (o, all)) :
    g.EndsAfter world all o := by
  induction limit generalizing sleeps with
  | zero => cases h
  | succ limit ih =>
      rcases g.turn_cases (world.clock sleeps) (world.elapsed sleeps) with
        ⟨y, hturn⟩ | ⟨r, hturn, -⟩
      · simp only [generateSleepingFrom, hturn] at h
        exact ih (hsleeps.concat hturn) h
      · simp only [generateSleepingFrom, hturn, Option.some.injEq, Prod.mk.injEq] at h
        obtain ⟨rfl, rfl⟩ := h
        exact ⟨hsleeps, hturn, rfl⟩

theorem endsAfter_of_generateSleeping (h : g.generateSleeping world limit = some (o, all)) :
    g.EndsAfter world all o :=
  endsAfter_of_generateSleepingFrom sleeps_nil h

end Sleeping

end Generator

end Snowflake
