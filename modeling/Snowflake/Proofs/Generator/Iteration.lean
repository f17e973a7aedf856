import Snowflake.Proofs.Generator.Waiting

/-!
A call is a run of polls, one after another on one generator, that stops at the first poll that is
not told to wait or whose check finds the time up. The polls before it have changed nothing, so that
the answer of this one poll decides how the call ends.
-/

namespace Snowflake.Generator

/-- The answer of poll number `k`, of the generator that the polls before it leave. -/
def answerAt (g : Generator) (clock : Nat → UInt64) (k : Nat) : Except GenerateError Poll :=
  ((g.afterPolls ((List.range k).map clock)).poll (clock k)).1

/-- After this answer a call does not go on: the answer is not to wait, or the time is up. -/
def Concludes (answer : Except GenerateError Poll) (timeout elapsed : Span) : Prop :=
  (∀ y, answer ≠ .ok (.pending y)) ∨ timeout ≤ elapsed

/-- The result of a call whose last poll has this answer. -/
def settled : Except GenerateError Poll → Except GenerateError Flake
  | .ok (.ready f) => .ok f
  | .ok (.pending y) => .error (.waitTimeout y)
  | .error e => .error e

/-- A call that polls on and on does not go on after poll number `k`. -/
def Stops (g : Generator) (clock : Nat → UInt64) (elapsed : Nat → Span) (timeout : Span)
    (k : Nat) : Prop :=
  Concludes (g.answerAt clock k) timeout (elapsed k)

theorem afterPolls_range_succ (g : Generator) (clock : Nat → UInt64) (k : Nat) :
    g.afterPolls ((List.range (k + 1)).map clock) =
      ((g.afterPolls ((List.range k).map clock)).poll (clock k)).2 := by
  rw [List.range_succ, List.map_append, afterPolls_append]
  rfl

section Turn

variable {g : Generator} {now : UInt64} {elapsed : Span}

theorem turn_of_concludes (h : Concludes (g.poll now).1 g.waitTimeout elapsed) :
    g.turn now elapsed = (.ended (settled (g.poll now).1), (g.poll now).2) := by
  have hturns := g.turns now elapsed
  generalize g.turn now elapsed = t at hturns ⊢
  cases hturns with
  | ready hpoll =>
      rw [hpoll]
      rfl
  | failed hpoll =>
      rw [hpoll]
      rfl
  | timeout hpoll htimeout =>
      rw [hpoll]
      rfl
  | @waiting y hpoll htimeout =>
      rcases h with hanswer | hpassed
      · exact absurd (congrArg Prod.fst hpoll) (hanswer y)
      · exact absurd hpassed htimeout

theorem turn_waits_iff :
    (∃ y, g.turn now elapsed = (.waiting y, g)) ↔
      ¬ Concludes (g.poll now).1 g.waitTimeout elapsed := by
  constructor
  · rintro ⟨y, hturn⟩ hconcludes
    rw [turn_of_concludes hconcludes] at hturn
    cases hturn
  · intro hgoes
    simp only [Concludes, not_or, not_forall, not_not] at hgoes
    obtain ⟨⟨y, hanswer⟩, htimeout⟩ := hgoes
    have hsame : (g.poll now).2 = g := eq_of_flake?_eq_none (by rw [hanswer]; rfl)
    exact ⟨y, turn_of_pending (Prod.ext hanswer hsame) htimeout⟩

end Turn

section Call

variable {g : Generator} {clock : Nat → UInt64} {elapsed : Nat → Span} {k : Nat}

section Waits

variable (h : ∀ j < k, ∃ y, g.turn (clock j) (elapsed j) = (.waiting y, g))
include h

theorem afterPolls_of_waits : g.afterPolls ((List.range k).map clock) = g := by
  induction k with
  | zero => rfl
  | succ k ih =>
      obtain ⟨y, hturn⟩ := h k (Nat.lt_succ_self k)
      rw [afterPolls_range_succ, ih fun j hj => h j (Nat.lt_succ_of_lt hj),
        (turn_eq_waiting_iff.mp hturn).1]

theorem stops_iff_of_waits :
    g.Stops clock elapsed g.waitTimeout k ↔
      Concludes (g.poll (clock k)).1 g.waitTimeout (elapsed k) := by
  rw [Stops, answerAt, afterPolls_of_waits h]

end Waits

theorem waits_iff :
    (∀ j < k, ∃ y, g.turn (clock j) (elapsed j) = (.waiting y, g)) ↔
      ∀ j < k, ¬ g.Stops clock elapsed g.waitTimeout j := by
  constructor
  · intro hwaits j hj
    rw [stops_iff_of_waits fun i hi => hwaits i (Nat.lt_trans hi hj)]
    exact turn_waits_iff.mp (hwaits j hj)
  · intro hgoes
    -- Up to each turn the generator is the one that the call began with.
    induction k with
    | zero => exact fun j hj => absurd hj (Nat.not_lt_zero j)
    | succ k ih =>
        have hwaits := ih fun j hj => hgoes j (Nat.lt_succ_of_lt hj)
        intro j hj
        rcases Nat.lt_succ_iff_lt_or_eq.mp hj with hj | rfl
        · exact hwaits j hj
        · rw [turn_waits_iff, ← stops_iff_of_waits hwaits]
          exact hgoes j (Nat.lt_succ_self j)

theorem isLeast_stops_iff {timeout : Span} :
    IsLeast {k | g.Stops clock elapsed timeout k} k ↔
      (∀ j < k, ¬ g.Stops clock elapsed timeout j) ∧ g.Stops clock elapsed timeout k := by
  constructor
  · rintro ⟨hstops, hleast⟩
    exact ⟨fun j hj hstops' => absurd (hleast hstops') (Nat.not_le.mpr hj), hstops⟩
  · rintro ⟨hgoes, hstops⟩
    exact ⟨hstops, fun j hj => Nat.not_lt.mp fun hlt => hgoes j hlt hj⟩

theorem endsAt_iff {o : Outcome Flake} :
    g.EndsAt clock elapsed k o ↔
      IsLeast {k | g.Stops clock elapsed g.waitTimeout k} k ∧
        o = ⟨settled (g.answerAt clock k), k + 1,
          g.afterPolls ((List.range (k + 1)).map clock)⟩ := by
  rw [isLeast_stops_iff, ← waits_iff]
  constructor
  · rintro ⟨hwaits, hturn, hpolls⟩
    have hconcludes : Concludes (g.poll (clock k)).1 g.waitTimeout (elapsed k) := by
      by_contra hgoes
      obtain ⟨y, hwaiting⟩ := turn_waits_iff.mpr hgoes
      rw [hwaiting] at hturn
      cases hturn
    refine ⟨⟨hwaits, (stops_iff_of_waits hwaits).mpr hconcludes⟩, ?_⟩
    rw [turn_of_concludes hconcludes, Prod.mk.injEq, Turn.ended.injEq] at hturn
    obtain ⟨result, polls, generator⟩ := o
    obtain ⟨rfl, rfl⟩ := hturn
    obtain rfl : polls = k + 1 := hpolls
    rw [answerAt, afterPolls_range_succ, afterPolls_of_waits hwaits]
  · rintro ⟨⟨hwaits, hstops⟩, rfl⟩
    refine ⟨hwaits, ?_, rfl⟩
    rw [answerAt, afterPolls_range_succ, afterPolls_of_waits hwaits]
    exact turn_of_concludes ((stops_iff_of_waits hwaits).mp hstops)

end Call

section Ends

variable (g : Generator) (clock : Nat → UInt64) {elapsed : Nat → Span} {i : Nat}

theorem exists_isLeast_stops {timeout : Span} (hi : timeout ≤ elapsed i) :
    ∃ k ≤ i, IsLeast {k | g.Stops clock elapsed timeout k} k := by
  classical
  have hexists : ∃ k, g.Stops clock elapsed timeout k := ⟨i, .inr hi⟩
  exact ⟨Nat.find hexists, Nat.find_min' hexists (.inr hi),
    isLeast_stops_iff.mpr ⟨fun j hj => Nat.find_min hexists hj, Nat.find_spec hexists⟩⟩

theorem exists_generate {limit : Nat} (hi : g.waitTimeout ≤ elapsed i) (hlt : i < limit) :
    ∃ o, g.generate clock elapsed limit = some o := by
  obtain ⟨k, hle, hleast⟩ := g.exists_isLeast_stops clock hi
  exact ⟨_, generate_eq_some_iff.mpr
    ⟨k, Nat.lt_of_le_of_lt hle hlt, endsAt_iff.mpr ⟨hleast, rfl⟩⟩⟩

end Ends

/-- A call is iterated polling with a timeout. It ends with the first poll that stops it, and gives
what that poll gave, or that the time is up if that poll was told to wait. Once a check finds the
time up some poll has stopped the call, whatever the clock reads. -/
theorem generate_iterates_poll (config : Config) (c : Counter) (clock : Nat → UInt64)
    (elapsed : Nat → Span) :
    let g := resume config c
    let timeout := max config.waitTimeout Config.minWaitTimeout
    (∀ limit o, g.generate clock elapsed limit = some o ↔
      ∃ k < limit, IsLeast {k | g.Stops clock elapsed timeout k} k ∧
        o = ⟨settled (g.answerAt clock k), k + 1,
          g.afterPolls ((List.range (k + 1)).map clock)⟩) ∧
      ∀ i, timeout ≤ elapsed i →
        ∃ k ≤ i, IsLeast {k | g.Stops clock elapsed timeout k} k ∧
          ∃ o, g.generate clock elapsed (i + 1) = some o ∧ o.polls = k + 1 := by
  intro g timeout
  have htimeout : g.waitTimeout = timeout := waitTimeout_resume c config
  have hends (limit : Nat) (o : Outcome Flake) : g.generate clock elapsed limit = some o ↔
      ∃ k < limit, IsLeast {k | g.Stops clock elapsed timeout k} k ∧
        o = ⟨settled (g.answerAt clock k), k + 1,
          g.afterPolls ((List.range (k + 1)).map clock)⟩ := by
    simp only [generate_eq_some_iff, endsAt_iff, htimeout]
  refine ⟨hends, ?_⟩
  intro i hi
  obtain ⟨k, hle, hleast⟩ := g.exists_isLeast_stops clock hi
  exact ⟨k, hle, hleast, _, (hends (i + 1) _).mpr ⟨k, Nat.lt_succ_of_le hle, hleast, rfl⟩, rfl⟩

/-- Twice behind the last millisecond, which is used up, and then in it, when the time is up. -/
theorem generate_iterates_poll_until_time_is_up :
    let config : Config := { Config.default with waitTimeout := .ofMillis 2 }
    let g := resume config (.resume 100 4095)
    let clock (i : Nat) : UInt64 := if i < 2 then 98 + .ofNat i else 100
    let elapsed (i : Nat) : Span := .ofMillis (.ofNat i)
    max config.waitTimeout Config.minWaitTimeout ≤ elapsed 5 ∧
      g.generate clock elapsed 6 = some ⟨.error (.waitTimeout 101), 3, g⟩ ∧
      IsLeast {k | g.Stops clock elapsed (.ofMillis 2) k} 2 := by
  intro config g clock elapsed
  have hup : max config.waitTimeout Config.minWaitTimeout ≤ elapsed 5 := by decide
  have hcall : g.generate clock elapsed 6 = some ⟨.error (.waitTimeout 101), 3, g⟩ := by
    dsimp only [g, config, clock, elapsed]
    rfl
  obtain ⟨k, -, hleast, o, ho, hpolls⟩ :=
    (generate_iterates_poll config (.resume 100 4095) clock elapsed).2 5 hup
  obtain rfl := Option.some_inj.mp (hcall.symm.trans ho)
  obtain rfl : k = 2 := (Nat.succ.inj hpolls).symm
  exact ⟨hup, hcall, hleast⟩

/-- A poll that is ready is no timeout, however late it comes. -/
example :
    ((new .default).generate (fun _ => 5) (fun _ => .ofMillis 5000) 1).map Outcome.result =
      some (.ok (.pack 5 .zero .zero 0)) := by
  rfl

end Snowflake.Generator
