import Snowflake.Proofs.Generator.Waiting

/-!
Calls in real time. The clock and the measure of the time passed follow one time, which never goes
back and may pass between any two steps of a call. A used up millisecond is waited out unless it
ends between a poll and the check after it: the check then finds the timeout reached, and gives up a
call whose next poll would have been ready.
-/

namespace Snowflake

/-- The time at the steps of a call, in nanoseconds since the epoch of the clock. -/
structure Timeline where
  start : Nat
  polled : Nat → Nat
  checked : Nat → Nat
  start_le : start ≤ polled 0
  polled_le (i : Nat) : polled i ≤ checked i
  checked_le (i : Nat) : checked i ≤ polled (i + 1)
  polled_lt (i : Nat) : polled i < 0x10000000000000000 * 1000000

namespace Timeline

/-- A call that polls and checks once, and does all else at the time `later`. -/
def ofFirstTurn (start polled checked later : Nat)
    (h : start ≤ polled ∧ polled ≤ checked ∧ checked ≤ later ∧
      later < 0x10000000000000000 * 1000000) : Timeline where
  start := start
  polled i := if i = 0 then polled else later
  checked i := if i = 0 then checked else later
  start_le := h.1
  polled_le i := by split <;> omega
  checked_le i := by simp only [Nat.succ_ne_zero, if_false]; split <;> omega
  polled_lt i := by split <;> omega

variable (t : Timeline)

def clock (i : Nat) : UInt64 :=
  .ofNat (t.polled i / 1000000)

def elapsed (i : Nat) : Span :=
  ⟨t.checked i - t.start, by have := t.checked_le i; have := t.polled_lt (i + 1); omega⟩

theorem toNat_clock (i : Nat) : (t.clock i).toNat = t.polled i / 1000000 := by
  have hlt := t.polled_lt i
  exact UInt64.toNat_ofNat_of_lt' (by change _ < 0x10000000000000000; omega)

theorem polled_mono : Monotone t.polled :=
  monotone_nat_of_le_succ fun i => (t.polled_le i).trans (t.checked_le i)

theorem start_le_polled (i : Nat) : t.start ≤ t.polled i :=
  t.start_le.trans (t.polled_mono (Nat.zero_le i))

theorem clock_mono {i j : Nat} (h : i ≤ j) : (t.clock i).toNat ≤ (t.clock j).toNat := by
  rw [toNat_clock, toNat_clock]
  exact Nat.div_le_div_right (t.polled_mono h)

theorem start_le_clock (i : Nat) : t.start / 1000000 ≤ (t.clock i).toNat := by
  rw [toNat_clock]
  exact Nat.div_le_div_right (t.start_le_polled i)

theorem start_lt_checked {i : Nat} (h : Config.minWaitTimeout ≤ t.elapsed i) :
    t.start / 1000000 < t.checked i / 1000000 := by
  change 1000000 ≤ t.checked i - t.start at h
  omega

end Timeline

namespace Generator

/-- The last millisecond of the counter is not ahead of the start of the call, and is not the last
one that there is. -/
def StartsIn (c : Counter) (t : Timeline) : Prop :=
  ∀ last, c.last = some last → last.toNat ≤ t.start / 1000000 ∧ last < Flake.maxTimestamp

section Timeline

variable (config : Config) {c : Counter} {t : Timeline} {i : Nat} {y : UInt64}

theorem StartsIn.pending_iff (h : StartsIn c t) :
    (∃ y, (resume config c).poll (t.clock i) = (.ok (.pending y), resume config c)) ↔
      c.last = some (t.clock i) ∧ Flake.maxSequence ≤ c.sequence := by
  constructor
  · rintro ⟨y, hpoll⟩
    cases (poll_eq_pending_iff.mp hpoll).2.2 with
    | exhausted hlast hfull => exact ⟨hlast, hfull⟩
    -- Time never goes back, so no reading is behind the counter.
    | behind hlast hlt hskew =>
        have hstart := (h y hlast).1
        have hclock := t.start_le_clock i
        rw [UInt64.lt_iff_toNat_lt] at hlt
        omega
  · rintro ⟨hlast, hfull⟩
    have hmax := (h _ hlast).2
    exact ⟨_, poll_eq_pending_iff.mpr ⟨rfl, UInt64.le_of_lt hmax, .exhausted hlast hfull⟩⟩

theorem StartsIn.clock_eq (h : StartsIn c t) (hlast : c.last = some (t.clock i)) {j : Nat}
    (hj : j ≤ i) : t.clock j = t.clock i := by
  apply UInt64.toNat_inj.mp
  have hstart := (h _ hlast).1
  have hclock := t.start_le_clock j
  have hmono := t.clock_mono hj
  omega

theorem timesOut_iff_checked_late (h : StartsIn c t) :
    ((resume config c).TimesOut t.clock t.elapsed ↔
      ∃ i, c.last = some (t.clock i) ∧ Flake.maxSequence ≤ c.sequence ∧
        max config.waitTimeout Config.minWaitTimeout ≤ t.elapsed i ∧
        (t.clock i).toNat < t.checked i / 1000000) ∧
      ((∀ i, t.checked i / 1000000 = t.polled i / 1000000) →
        ¬ (resume config c).TimesOut t.clock t.elapsed) := by
  have hiff : (resume config c).TimesOut t.clock t.elapsed ↔
      ∃ i, c.last = some (t.clock i) ∧ Flake.maxSequence ≤ c.sequence ∧
        max config.waitTimeout Config.minWaitTimeout ≤ t.elapsed i ∧
        (t.clock i).toNat < t.checked i / 1000000 := by
    rw [timesOut_iff, ← Config.clampWait_eq_max]
    constructor
    · rintro ⟨k, hpending, htimeout⟩
      obtain ⟨hlast, hfull⟩ := (h.pending_iff config).mp (hpending k (Nat.le_refl k))
      have hmin : Config.minWaitTimeout ≤ t.elapsed k :=
        Nat.le_trans (Config.minWaitTimeout_le_clampWait config.waitTimeout) htimeout
      exact ⟨k, hlast, hfull, htimeout,
        Nat.lt_of_le_of_lt (h _ hlast).1 (t.start_lt_checked hmin)⟩
    · rintro ⟨i, hlast, hfull, htimeout, -⟩
      refine ⟨i, ?_, htimeout⟩
      intro j hj
      apply (h.pending_iff config).mpr
      rw [h.clock_eq hlast hj]
      exact ⟨hlast, hfull⟩
  refine ⟨hiff, ?_⟩
  intro hprompt htimesOut
  obtain ⟨i, -, -, -, hlate⟩ := hiff.mp htimesOut
  rw [t.toNat_clock, hprompt] at hlate
  exact Nat.lt_irrefl _ hlate

/-- Polled early and checked at once, the used up millisecond 5 is waited out. -/
theorem timesOut_iff_checked_late_when_prompt :
    let c := Counter.resume 5 4095
    let t := Timeline.ofFirstTurn 5200000 5200000 5300000 6000000 (by decide)
    let g := resume { Config.default with waitTimeout := .zero } c
    StartsIn c t ∧ (∀ i, t.checked i / 1000000 = t.polled i / 1000000) ∧
      ¬ g.TimesOut t.clock t.elapsed := by
  intro c t g
  have hstarts : StartsIn c t := by
    rintro last ⟨⟩
    decide
  have hprompt : ∀ i, t.checked i / 1000000 = t.polled i / 1000000 := by
    rintro (_ | i)
    · decide
    · rfl
  exact ⟨hstarts, hprompt, (timesOut_iff_checked_late _ hstarts).2 hprompt⟩

/-- Polled late in the used up millisecond 5 and checked a millisecond later, the call is given up,
though its next poll would be ready. -/
theorem timesOut_across_millisecond :
    let c := Counter.resume 5 4095
    let t := Timeline.ofFirstTurn 5900000 5900000 6900000 6900000 (by decide)
    let g := resume { Config.default with waitTimeout := .zero } c
    StartsIn c t ∧ g.TimesOut t.clock t.elapsed ∧
      (g.poll (t.clock 1)).1 = .ok (.ready (.pack 6 .zero .zero 0)) := by
  refine ⟨?_, ⟨1, ⟨.error (.waitTimeout 6), 1, _⟩, 6, rfl, rfl⟩, ?_⟩
  · rintro last ⟨⟩
    decide
  · decide

end Timeline

end Generator

end Snowflake
