import Snowflake.Proofs.Generator.Budget

/-!
A call that sleeps does not spin. Every sleep lasts at least a millisecond, whatever the clock reads
and however old the hint is by then. So where sleeps take the time that was asked for, the budget of
the call bounds the number of its sleeps.
-/

namespace Snowflake.Generator

/-- Each sleep that the call asks for takes at least as long as asked, as far as a span can tell. -/
def SleepsPass (g : Generator) (world : Surroundings) : Prop :=
  ∀ earlier s, g.Sleeps world (earlier ++ [s]) →
    (world.elapsed earlier).addMillisCapped s.toNat ≤ world.elapsed (earlier ++ [s])

theorem sleepsPass_ofReadings (g : Generator) (clock wake : List UInt64 → UInt64) :
    g.SleepsPass (.ofReadings clock wake) := by
  intro earlier s _
  simp only [Surroundings.ofReadings, slept_concat, Span.addMillisCapped_ofMillisCapped]
  exact Nat.le_refl _

section Sleeping

variable {g : Generator} {world : Surroundings} {sleeps earlier : List UInt64} {s : UInt64}

theorem Sleeps.of_concat (h : g.Sleeps world (earlier ++ [s])) :
    g.Sleeps world earlier ∧
      ∃ y, g.turn (world.clock earlier) (world.elapsed earlier) = (.waiting y, g) ∧
        s = sleepMillis y (world.wake earlier) := by
  refine ⟨?_, h earlier s List.prefix_rfl⟩
  intro first s' hinit
  exact h first s' (hinit.trans (List.prefix_append earlier [s]))

theorem Sleeps.length_le_slept (h : g.Sleeps world sleeps) : sleeps.length ≤ slept sleeps := by
  induction sleeps using List.reverseRecOn with
  | nil => exact Nat.zero_le _
  | append_singleton earlier s ih =>
      obtain ⟨hearlier, y, -, rfl⟩ := h.of_concat
      have hlength := ih hearlier
      rw [List.length_append, List.length_singleton, slept_concat, toNat_sleepMillis]
      omega

section Pass

variable (hpass : g.SleepsPass world)
include hpass

theorem Sleeps.ofMillisCapped_slept_le (h : g.Sleeps world sleeps) :
    Span.ofMillisCapped (slept sleeps) ≤ world.elapsed sleeps := by
  induction sleeps using List.reverseRecOn with
  | nil => simp [Span.le_def, Span.nanos_ofMillisCapped, slept]
  | append_singleton earlier s ih =>
      have hearlier := ih h.of_concat.1
      have hgrows := hpass earlier s h
      rw [slept_concat, ← Span.addMillisCapped_ofMillisCapped]
      exact Nat.le_trans (Span.addMillisCapped_mono hearlier s.toNat) hgrows

theorem Sleeps.slept_lt_ceilMillis (h : g.Sleeps world sleeps)
    (htimeout : ¬ g.waitTimeout ≤ world.elapsed sleeps) :
    slept sleeps < g.waitTimeout.ceilMillis := by
  by_contra hspent
  apply htimeout
  have hcapped := (Span.le_ofMillisCapped_iff _ _).mpr (Nat.not_lt.mp hspent)
  exact Nat.le_trans hcapped (h.ofMillisCapped_slept_le hpass)

theorem Sleeps.length_le_ceilMillis (h : g.Sleeps world sleeps) :
    sleeps.length ≤ g.waitTimeout.ceilMillis := by
  rcases List.eq_nil_or_concat sleeps with rfl | ⟨earlier, s, rfl⟩
  · exact Nat.zero_le _
  rw [List.concat_eq_append] at h ⊢
  obtain ⟨hearlier, y, hturn, -⟩ := h.of_concat
  have hwithin := hearlier.slept_lt_ceilMillis hpass (turn_eq_waiting_iff.mp hturn).2
  have hlength := hearlier.length_le_slept
  rw [List.length_append, List.length_singleton]
  omega

end Pass

theorem generateSleepingFrom_of_le {limit limit' : Nat} {r : Outcome Flake × List UInt64}
    (h : generateSleepingFrom world limit sleeps g = some r) (hle : limit ≤ limit') :
    generateSleepingFrom world limit' sleeps g = some r := by
  induction limit generalizing sleeps limit' with
  | zero => cases h
  | succ limit ih =>
      obtain ⟨limit', rfl⟩ := Nat.exists_eq_succ_of_ne_zero (Nat.ne_of_gt (Nat.zero_lt_of_lt hle))
      rcases g.turn_cases (world.clock sleeps) (world.elapsed sleeps) with
        ⟨y, hturn⟩ | ⟨r', hturn, -⟩
      · simp only [generateSleepingFrom, hturn] at h ⊢
        exact ih h (Nat.le_of_succ_le_succ hle)
      · simp only [generateSleepingFrom, hturn] at h ⊢
        exact h

end Sleeping

/-- A call that sleeps comes to an end on every clock, stalled, falling back or jumping: with no
more sleeps than its budget has milliseconds, and one poll more. -/
theorem generateSleeping_does_not_spin (config : Config) (c : Counter) (world : Surroundings)
    (hpass : (resume config c).SleepsPass world) :
    ∃ o sleeps,
      (∀ limit, config.waitBudget < limit →
        (resume config c).generateSleeping world limit = some (o, sleeps)) ∧
      sleeps.length ≤ config.waitBudget ∧ o.polls ≤ config.waitBudget + 1 := by
  have hbudget : (resume config c).waitTimeout.ceilMillis = config.waitBudget :=
    congrArg Span.ceilMillis (waitTimeout_resume c config)
  have hends : ∃ o sleeps, (resume config c).generateSleeping world (config.waitBudget + 1) =
      some (o, sleeps) := by
    refine exists_generateSleepingFrom ?_ sleeps_nil (Nat.le_add_left _ _)
    intro sleeps hsleeps htimeout
    rw [← hbudget]
    exact hsleeps.slept_lt_ceilMillis hpass htimeout
  obtain ⟨o, sleeps, hcall⟩ := hends
  have hafter := endsAfter_of_generateSleeping hcall
  have hlength := hafter.waits.length_le_ceilMillis hpass
  rw [hbudget] at hlength
  refine ⟨o, sleeps, fun limit hlimit => generateSleepingFrom_of_le hcall hlimit, hlength, ?_⟩
  rw [hafter.polls_eq]
  exact Nat.succ_le_succ hlength

/-- A clock that stands still behind the last millisecond, and once is past the hint when the sleep
is counted: three sleeps in two milliseconds and a half. -/
theorem generateSleeping_does_not_spin_on_stalled_clock :
    let config : Config := { Config.default with waitTimeout := ⟨2500000, by decide⟩ }
    let g := resume config (.resume 100 7)
    let world : Surroundings := .ofReadings (fun _ => 99) fun sleeps =>
      if sleeps.length = 1 then 200 else 99
    let timedOut : Outcome Flake := ⟨.error (.waitTimeout 100), 4, g⟩
    g.SleepsPass world ∧ config.waitBudget = 3 ∧
      g.generateSleeping world 50 = some (timedOut, [1, 1, 1]) ∧
      timedOut.polls ≤ config.waitBudget + 1 := by
  intro config g world timedOut
  have hpass : g.SleepsPass world := sleepsPass_ofReadings g _ _
  have hcall : g.generateSleeping world 50 = some (timedOut, [1, 1, 1]) := by
    dsimp only [g, config, world, timedOut]
    rfl
  obtain ⟨o, sleeps, hends, -, hpolls⟩ :=
    generateSleeping_does_not_spin config (.resume 100 7) world hpass
  have hsame := hcall.symm.trans (hends 50 (by decide))
  obtain ⟨rfl, -⟩ := Prod.mk.inj (Option.some_inj.mp hsame)
  exact ⟨hpass, by decide, hcall, hpolls⟩

end Snowflake.Generator
