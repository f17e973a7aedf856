import Snowflake.Proofs.Generator.Waiting
import Snowflake.Proofs.Time.Span

/-!
How long a call sleeps. Every sleep begins within the timeout and lasts at least a millisecond, so
the call comes to an end. Nothing bounds the last sleep by what is left of the timeout: it lasts as
long as the hint is ahead of the clock, and the call ends in time only if that is short enough.
-/

namespace Snowflake

/-- The longest that a call may wait, in milliseconds. -/
def Config.waitBudget (config : Config) : Nat :=
  (max config.waitTimeout minWaitTimeout).ceilMillis

namespace Generator

/-- The milliseconds of these sleeps together. -/
def slept (sleeps : List UInt64) : Nat :=
  (sleeps.map UInt64.toNat).sum

theorem slept_concat (sleeps : List UInt64) (s : UInt64) :
    slept (sleeps ++ [s]) = slept sleeps + s.toNat := by
  simp [slept]

theorem slept_le_of_prefix {earlier sleeps : List UInt64} (h : earlier <+: sleeps) :
    slept earlier ≤ slept sleeps := by
  obtain ⟨later, rfl⟩ := h
  simp [slept]

/-- The world of a call for which time passes in its sleeps only, each as long as it asked for. -/
def Surroundings.ofReadings (clock wake : List UInt64 → UInt64) : Surroundings :=
  ⟨clock, fun sleeps => .ofMillisCapped (slept sleeps), wake⟩

theorem exists_generateSleepingFrom {g : Generator} {world : Surroundings} {budget limit : Nat}
    {sleeps : List UInt64}
    (hbudget : ∀ sleeps, g.Sleeps world sleeps → ¬ g.waitTimeout ≤ world.elapsed sleeps →
      slept sleeps < budget)
    (hsleeps : g.Sleeps world sleeps) (hlimit : budget ≤ slept sleeps + limit) :
    ∃ o all, generateSleepingFrom world (limit + 1) sleeps g = some (o, all) := by
  -- A sleep takes at least a millisecond off the budget, so the limit counts what is left of it.
  induction limit generalizing sleeps with
  | zero =>
      rcases g.turn_cases (world.clock sleeps) (world.elapsed sleeps) with
        ⟨y, hturn⟩ | ⟨r, hturn, -⟩
      · have hwithin := hbudget sleeps hsleeps (turn_eq_waiting_iff.mp hturn).2
        omega
      · simp only [generateSleepingFrom, hturn]
        exact ⟨_, _, rfl⟩
  | succ limit ih =>
      rcases g.turn_cases (world.clock sleeps) (world.elapsed sleeps) with
        ⟨y, hturn⟩ | ⟨r, hturn, -⟩
      · have hlater : budget ≤
            slept (sleeps ++ [sleepMillis y (world.wake sleeps)]) + limit := by
          rw [slept_concat, toNat_sleepMillis]
          omega
        rw [generateSleepingFrom, hturn]
        exact ih (hsleeps.concat hturn) hlater
      · rw [generateSleepingFrom, hturn]
        exact ⟨_, _, rfl⟩

/-- Where every sleep begins within the budget, only the last one can go past it. -/
theorem slept_le_iff {sleeps : List UInt64} {budget : Nat}
    (hbegins : ∀ earlier s, earlier ++ [s] <+: sleeps → slept earlier < budget) :
    slept sleeps ≤ budget ↔
      ∀ earlier s, earlier ++ [s] <+: sleeps → s.toNat ≤ budget - slept earlier := by
  constructor
  · intro hends earlier s hinit
    have hsum := slept_le_of_prefix hinit
    rw [slept_concat] at hsum
    omega
  · intro hfits
    rcases List.eq_nil_or_concat sleeps with rfl | ⟨earlier, s, rfl⟩
    · exact Nat.zero_le _
    · rw [List.concat_eq_append] at hbegins hfits ⊢
      have hbegin := hbegins earlier s List.prefix_rfl
      have hfit := hfits earlier s List.prefix_rfl
      rw [slept_concat]
      omega

theorem Pending.sub_le {g : Generator} {now later y : UInt64} (h : g.Pending now y)
    (hlater : now ≤ later) : y.toNat - later.toNat ≤ max 1 g.maxSkew.toNat := by
  rw [UInt64.le_iff_toNat_le] at hlater
  cases h with
  | exhausted hlast hfull =>
      have hnext : (now + 1).toNat ≤ now.toNat + 1 := by
        rw [UInt64.toNat_add]
        exact Nat.mod_le _ _
      omega
  | behind hlast hlt hskew => omega

section Budget

variable (config : Config) (c : Counter) {clock wake : List UInt64 → UInt64}
  {sleeps earlier : List UInt64} {s : UInt64}

theorem waitTimeout_le_ofReadings_iff :
    (resume config c).waitTimeout ≤ (Surroundings.ofReadings clock wake).elapsed sleeps ↔
      config.waitBudget ≤ slept sleeps := by
  change Config.clampWait config.waitTimeout ≤ _ ↔ _
  rw [Config.clampWait_eq_max]
  exact Span.le_ofMillisCapped_iff _ _

section Sleeps

variable {config c} (h : (resume config c).Sleeps (.ofReadings clock wake) sleeps)
include h

theorem Sleeps.of_prefix (hinit : earlier ++ [s] <+: sleeps) :
    slept earlier < config.waitBudget ∧
      ∃ y, (resume config c).poll (clock earlier) = (.ok (.pending y), resume config c) ∧
        s.toNat = max 1 (y.toNat - (wake earlier).toNat) := by
  obtain ⟨y, hturn, rfl⟩ := h earlier s hinit
  obtain ⟨hpoll, htimeout⟩ := turn_eq_waiting_iff.mp hturn
  rw [waitTimeout_le_ofReadings_iff] at htimeout
  exact ⟨Nat.not_le.mp htimeout, y, hpoll, toNat_sleepMillis y (wake earlier)⟩

theorem Sleeps.slept_le_waitBudget_iff_fits :
    slept sleeps ≤ config.waitBudget ↔
      ∀ earlier s, earlier ++ [s] <+: sleeps → s.toNat ≤ config.waitBudget - slept earlier :=
  slept_le_iff fun _ _ hinit => (h.of_prefix hinit).1

theorem Sleeps.slept_le_waitBudget_iff_hints :
    slept sleeps ≤ config.waitBudget ↔
      ∀ earlier s y, earlier ++ [s] <+: sleeps →
        (resume config c).poll (clock earlier) = (.ok (.pending y), resume config c) →
        y.toNat ≤ (wake earlier).toNat + (config.waitBudget - slept earlier) := by
  rw [h.slept_le_waitBudget_iff_fits]
  constructor
  · intro hfits earlier s y hinit hpoll
    obtain ⟨-, y', hpoll', hs⟩ := h.of_prefix hinit
    cases hpoll.symm.trans hpoll'
    have hfit := hfits earlier s hinit
    omega
  -- What is left is at least a millisecond, so the least sleep fits whatever the hint.
  · intro hhints earlier s hinit
    obtain ⟨hbegin, y, hpoll, hs⟩ := h.of_prefix hinit
    have hhint := hhints earlier s y hinit hpoll
    omega

theorem Sleeps.slept_lt (hclock : ∀ earlier, earlier <+: sleeps → clock earlier ≤ wake earlier) :
    slept sleeps < config.waitBudget + max 1 config.maxSkew.millis := by
  rcases List.eq_nil_or_concat sleeps with rfl | ⟨earlier, s, rfl⟩
  · exact Nat.lt_add_left _ (Nat.lt_of_lt_of_le Nat.one_pos (Nat.le_max_left _ _))
  rw [List.concat_eq_append] at h hclock ⊢
  obtain ⟨hbegin, y, hpoll, hs⟩ := h.of_prefix List.prefix_rfl
  have hpending := (poll_eq_pending_iff.mp hpoll).2.2
  have hahead := hpending.sub_le (hclock earlier (List.prefix_append _ _))
  have hskew : (resume config c).maxSkew.toNat ≤ config.maxSkew.millis :=
    config.maxSkew.toNat_millisWord_le
  rw [slept_concat]
  omega

end Sleeps

theorem slept_le_waitBudget_iff (clock wake : List UInt64 → UInt64) :
    let g := resume config c
    ∃ o sleeps,
      g.generateSleeping (.ofReadings clock wake) (config.waitBudget + 1) = some (o, sleeps) ∧
      (slept sleeps ≤ config.waitBudget ↔
        ∀ earlier s, earlier ++ [s] <+: sleeps →
          s.toNat ≤ config.waitBudget - slept earlier) ∧
      (slept sleeps ≤ config.waitBudget ↔
        ∀ earlier s y, earlier ++ [s] <+: sleeps →
          g.poll (clock earlier) = (.ok (.pending y), g) →
          y.toNat ≤ (wake earlier).toNat + (config.waitBudget - slept earlier)) ∧
      ((∀ earlier, earlier <+: sleeps → clock earlier ≤ wake earlier) →
        slept sleeps < config.waitBudget + max 1 config.maxSkew.millis) := by
  intro g
  have hbudget (sleeps : List UInt64)
      (htimeout : ¬ g.waitTimeout ≤ (Surroundings.ofReadings clock wake).elapsed sleeps) :
      slept sleeps < config.waitBudget := by
    rw [waitTimeout_le_ofReadings_iff] at htimeout
    exact Nat.not_le.mp htimeout
  have hends : ∃ o all, g.generateSleeping (.ofReadings clock wake) (config.waitBudget + 1) =
      some (o, all) :=
    exists_generateSleepingFrom (fun sleeps _ => hbudget sleeps) sleeps_nil (Nat.le_add_left _ _)
  obtain ⟨o, sleeps, hcall⟩ := hends
  have hsleeps := (endsAfter_of_generateSleeping hcall).waits
  exact ⟨o, sleeps, hcall, hsleeps.slept_le_waitBudget_iff_fits,
    hsleeps.slept_le_waitBudget_iff_hints, hsleeps.slept_lt⟩

end Budget

/-- A tolerated step back of 100 milliseconds is slept out at once, whatever the timeout. -/
theorem slept_past_waitBudget :
    let config : Config :=
      { Config.default with maxSkew := .ofMillis 100, waitTimeout := .ofMillis 10 }
    let g := resume config (.resume 200 0)
    let now (sleeps : List UInt64) : UInt64 := 100 + .ofNat (slept sleeps)
    g.generateSleeping (.ofReadings now now) (config.waitBudget + 1) =
        some (⟨.ok (.pack 200 .zero .zero 1), 2, resume config (.resume 200 1)⟩, [100]) ∧
      config.waitBudget = 10 ∧ ¬ slept [100] ≤ config.waitBudget := by
  refine ⟨?_, ?_, ?_⟩
  · rfl
  · decide
  · decide

/-- With the default settings, a clock that is set back between the poll and the sleep. -/
example :
    let g := resume .default (.resume 5000 4095)
    let now (sleeps : List UInt64) : UInt64 := 5000 + .ofNat (slept sleeps)
    (g.generateSleeping (.ofReadings now fun _ => 0) 2).map Prod.snd = some [5001] ∧
      Config.default.waitBudget = 1000 := by
  decide

end Generator

end Snowflake
