import Snowflake.Proofs.Generator.Exact

/-!
The tolerance towards a clock that falls back. It is a span of any length, and a fall is compared
with it as the span that it is, although a generator keeps the tolerance as a word of milliseconds.
-/

namespace Snowflake

namespace Span

theorem nanos_ofMillis_sub {last now : UInt64} (h : now ≤ last) :
    (ofMillis (last - now)).nanos = (last.toNat - now.toNat) * 1000000 := by
  show (last - now).toNat * 1000000 = _
  rw [UInt64.toNat_sub_of_le _ _ h]

/-- A span of whole milliseconds is compared by these alone. -/
theorem ofMillis_le_iff {n : UInt64} {s : Span} :
    ofMillis n ≤ s ↔ n.toNat ≤ s.millisWord.toNat := by
  rw [le_toNat_millisWord_iff s n.toNat_lt, millis, Nat.le_div_iff_mul_le (by decide)]
  exact le_def _ _

end Span

namespace Generator

section Fall

variable (config : Config) {c : Counter} {last now : UInt64}

theorem poll_of_fall (hlast : c.last = some last) (hlt : now < last)
    (hnow : now ≤ Flake.maxTimestamp) :
    (resume config c).poll now =
      (if Span.ofMillis (last - now) ≤ config.maxSkew then .ok (.pending last)
        else .error (.clockRegression last now),
      resume config c) := by
  have hfall : (last - now).toNat = last.toNat - now.toNat :=
    UInt64.toNat_sub_of_le _ _ (UInt64.le_of_lt hlt)
  have hresumed : (resume config c).counter.last = some last := hlast
  rw [poll_of_lt_last hnow hresumed hlt, behind_of_lt hlt]
  simp only [Span.ofMillis_le_iff, hfall]
  rfl

end Fall

/-- What an answer may be where the tolerance is wider: the same, or waiting in place of an error
about the clock. -/
inductive Milder : Except GenerateError Poll → Except GenerateError Poll → Prop where
  | same (answer : Except GenerateError Poll) : Milder answer answer
  | waits (last now : UInt64) :
      Milder (.error (.clockRegression last now)) (.ok (.pending last))

theorem Milder.eq_of_pending {answer : Except GenerateError Poll} {y : UInt64}
    (h : Milder (.ok (.pending y)) answer) : answer = .ok (.pending y) := by
  cases h with
  | same => rfl

section Wider

variable {config : Config} {wider : Span} (h : config.maxSkew ≤ wider) (c : Counter)
include h

/-- The tolerance has a say in answers only: the counter is the same after a poll. -/
theorem milder_poll (now : UInt64) :
    Milder ((resume config c).poll now).1
        ((resume (config.withMaxSkew wider) c).poll now).1 ∧
      ((resume (config.withMaxSkew wider) c).poll now).2.counter =
        ((resume config c).poll now).2.counter := by
  by_cases hover : Flake.maxTimestamp < now
  · rw [poll_of_overflow hover, poll_of_overflow hover]
    exact ⟨.same _, rfl⟩
  have hnow := UInt64.not_lt.mp hover
  rcases c.next_cases now with ⟨-, -, ⟨hlast, hfull, -⟩ | ⟨last, hlast, hlt, -⟩⟩ | ⟨n, hnext, -⟩
  · have hexhausted (config : Config) :
        (resume config c).poll now = (.ok (.pending (now + 1)), resume config c) :=
      poll_of_exhausted hnow hlast hfull
    rw [hexhausted, hexhausted]
    exact ⟨.same _, rfl⟩
  · rw [poll_of_fall config hlast hlt hnow, poll_of_fall _ hlast hlt hnow]
    refine ⟨?_, rfl⟩
    show Milder (if Span.ofMillis (last - now) ≤ config.maxSkew then _ else _)
      (if Span.ofMillis (last - now) ≤ wider then _ else _)
    by_cases hwaits : Span.ofMillis (last - now) ≤ config.maxSkew
    · have hwaits' : Span.ofMillis (last - now) ≤ wider := Nat.le_trans hwaits h
      rw [if_pos hwaits, if_pos hwaits']
      exact .same _
    · rw [if_neg hwaits]
      split
      · exact .waits last now
      · exact .same _
  · have hready (config : Config) :
        (resume config c).poll now = (.ok (.ready (.pack now config.worker config.process n)),
          { resume config c with counter := ⟨some now, n⟩ }) :=
      poll_of_next_ok hnow hnext
    rw [hready, hready]
    exact ⟨.same _, rfl⟩

theorem forall₂_milder_answers (readings : List UInt64) :
    List.Forall₂ Milder ((resume config c).answers readings)
      ((resume (config.withMaxSkew wider) c).answers readings) := by
  induction readings generalizing c with
  | nil => exact .nil
  | cons now readings ih =>
      obtain ⟨hanswer, hcounter⟩ := milder_poll h c now
      have hrest := ih ((resume config c).poll now).2.counter
      rw [resume_counter_poll, ← hcounter, resume_counter_poll] at hrest
      exact .cons hanswer hrest

end Wider

/-- The tolerance is honoured to the nanosecond. A clock that has fallen back is waited for exactly
if the fall, taken as a span, is not longer than the tolerance, and otherwise the poll is an error
that tells both readings; neither changes the generator. With a wider tolerance every poll of a run
gives the same answer, except that it may wait where it gave this error. -/
theorem poll_tolerates_exactly (config : Config) (start : Counter) (calls : List Call) :
    let g := (resume config start).afterCalls calls
    (∀ last now, g.counter.last = some last → now < last → now ≤ Flake.maxTimestamp →
      let fall := Span.ofMillis (last - now)
      fall.nanos = (last.toNat - now.toNat) * 1000000 ∧
        ((g.poll now).1 = .ok (.pending last) ↔ fall ≤ config.maxSkew) ∧
        (¬ fall ≤ config.maxSkew → (g.poll now).1 = .error (.clockRegression last now)) ∧
        (g.poll now).2 = g) ∧
    ∀ wider, config.maxSkew ≤ wider →
      let g' := resume (config.withMaxSkew wider) g.counter
      (∀ now y, (g.poll now).1 = .ok (.pending y) → (g'.poll now).1 = .ok (.pending y)) ∧
        ∀ readings, List.Forall₂ Milder (g.answers readings) (g'.answers readings) := by
  intro g
  have hresumed : resume config g.counter = g := resume_counter_afterCalls config start calls
  refine ⟨?_, ?_⟩
  · intro last now hlast hlt hnow fall
    have hpoll := poll_of_fall config hlast hlt hnow
    rw [hresumed] at hpoll
    rw [hpoll]
    refine ⟨Span.nanos_ofMillis_sub (UInt64.le_of_lt hlt), ?_, fun hlong => if_neg hlong, rfl⟩
    show (if fall ≤ config.maxSkew then _ else _) = _ ↔ _
    split
    · rename_i hle
      exact iff_of_true rfl hle
    · rename_i hlong
      exact iff_of_false nofun hlong
  · intro wider hwider g'
    refine ⟨?_, ?_⟩
    · intro now y hpending
      obtain ⟨hmilder, -⟩ := milder_poll hwider g.counter now
      rw [hresumed, hpending] at hmilder
      exact hmilder.eq_of_pending
    · intro readings
      have hanswers := forall₂_milder_answers hwider g.counter readings
      rwa [hresumed] at hanswers

/-- Five milliseconds are within a tolerance of six less a nanosecond, and six are not; and the
longest fall there can be, with the longest tolerance and with one that is too short by less than a
millisecond. -/
theorem poll_tolerates_exactly_next_to_its_limit :
    let short : Config := Config.default.withMaxSkew ⟨5999999, by decide⟩
    let g := (resume short .new).afterCalls [.poll 100]
    let g' := resume (short.withMaxSkew (.ofMillis 6)) g.counter
    let long : Span := ⟨0x10000000000000000 * 1000000000 - 1, by decide⟩
    let most : Span := ⟨0xFFFFFFFFFFFFFFFF * 1000000 - 1, by decide⟩
    let atEnd (skew : Span) := resume (Config.default.withMaxSkew skew) ⟨some 0xFFFFFFFFFFFFFFFF, 0⟩
    (g.poll 95).1 = .ok (.pending 100) ∧
      (g.poll 94).1 = .error (.clockRegression 100 94) ∧
      (g'.poll 95).1 = .ok (.pending 100) ∧
      List.Forall₂ Milder (g.answers [95, 94, 101]) (g'.answers [95, 94, 101]) ∧
      ((atEnd long).poll 0).1 = .ok (.pending 0xFFFFFFFFFFFFFFFF) ∧
      ((atEnd most).poll 0).1 = .error (.clockRegression 0xFFFFFFFFFFFFFFFF 0) := by
  intro short g g' long most atEnd
  have hlast : g.counter.last = some 100 := by decide
  have hwider : short.maxSkew ≤ .ofMillis 6 := by decide
  obtain ⟨hfall, hrun⟩ := poll_tolerates_exactly short .new [.poll 100]
  obtain ⟨hpending, hanswers⟩ := hrun (.ofMillis 6) hwider
  obtain ⟨-, hwaits, -, -⟩ := hfall 100 95 hlast (by decide) (by decide)
  obtain ⟨-, -, hfails, -⟩ := hfall 100 94 hlast (by decide) (by decide)
  have hfirst : (g.poll 95).1 = .ok (.pending 100) := hwaits.mpr (by decide)
  obtain ⟨hlong, -⟩ := poll_tolerates_exactly (Config.default.withMaxSkew long)
    ⟨some 0xFFFFFFFFFFFFFFFF, 0⟩ []
  obtain ⟨hmost, -⟩ := poll_tolerates_exactly (Config.default.withMaxSkew most)
    ⟨some 0xFFFFFFFFFFFFFFFF, 0⟩ []
  obtain ⟨-, hend, -, -⟩ := hlong 0xFFFFFFFFFFFFFFFF 0 rfl (by decide) (by decide)
  obtain ⟨-, -, hend', -⟩ := hmost 0xFFFFFFFFFFFFFFFF 0 rfl (by decide) (by decide)
  exact ⟨hfirst, hfails (by decide), hpending 95 100 hfirst, hanswers [95, 94, 101],
    hend.mpr (by decide), hend' (by decide)⟩

end Generator

end Snowflake
