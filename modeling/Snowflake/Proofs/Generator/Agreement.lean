import Snowflake.Proofs.Generator.Waiting

/-!
A call that polls all the time beside one that sleeps in between. Where the polls of both read the
same and their checks find the same time passed, both end with the same poll and leave the same
generator: the readings from which the second counts its sleeps decide how long these are, and
nothing else.
-/

namespace Snowflake.Generator

/-- What a call that sleeps sees of a clock from which it takes all its readings in turn: one for
each poll and, if that has to wait, one for the sleep after it. -/
def Surroundings.ofClock (readings : Stream' UInt64) (elapsed : Nat → Span) : Surroundings :=
  ⟨fun sleeps => readings.get (2 * sleeps.length), fun sleeps => elapsed sleeps.length,
    fun sleeps => readings.get (2 * sleeps.length + 1)⟩

theorem Sleeps.getElem {g : Generator} {world : Surroundings} {sleeps : List UInt64}
    (h : g.Sleeps world sleeps) {i : Nat} (hi : i < sleeps.length) :
    ∃ y, g.poll (world.clock (sleeps.take i)) = (.ok (.pending y), g) ∧
      sleeps[i].toNat = max 1 (y.toNat - (world.wake (sleeps.take i)).toNat) := by
  have hinit : sleeps.take i ++ [sleeps[i]] <+: sleeps := by
    rw [List.take_concat_get' sleeps i hi]
    exact List.take_prefix (i + 1) sleeps
  obtain ⟨y, hturn, hs⟩ := h _ _ hinit
  refine ⟨y, (turn_eq_waiting_iff.mp hturn).1, ?_⟩
  rw [hs, toNat_sleepMillis]

theorem map_fst_generateSleepingFrom (g : Generator) (readings : Stream' UInt64)
    (elapsed : Nat → Span) (limit : Nat) (sleeps : List UInt64) :
    (generateSleepingFrom (.ofClock readings elapsed) limit sleeps g).map Prod.fst =
      generateFrom (fun i => readings.get (2 * i)) elapsed limit sleeps.length g := by
  -- Both calls have come to the same turn: the number of sleeps is that of the polls before it.
  induction limit generalizing sleeps with
  | zero => rfl
  | succ limit ih =>
      rcases g.turn_cases (readings.get (2 * sleeps.length)) (elapsed sleeps.length) with
        ⟨y, hturn⟩ | ⟨r, hturn, -⟩
      · simp only [generateSleepingFrom, generateFrom, Surroundings.ofClock, hturn]
        exact (ih _).trans (by rw [List.length_append, List.length_singleton])
      · simp only [generateSleepingFrom, generateFrom, Surroundings.ofClock, hturn, Option.map_some]

theorem generateSleeping_interleave (g : Generator) (polled woken : Stream' UInt64)
    (elapsed : Nat → Span) (limit : Nat) :
    let call := g.generateSleeping (.ofClock (polled.interleave woken) elapsed) limit
    call.map Prod.fst = g.generate polled.get elapsed limit ∧
      ∀ o sleeps, call = some (o, sleeps) →
        sleeps.length + 1 = o.polls ∧
          ∀ i (hi : i < sleeps.length),
            ∃ y, g.poll (polled.get i) = (.ok (.pending y), g) ∧
              sleeps[i].toNat = max 1 (y.toNat - (woken.get i).toNat) := by
  intro call
  have hpolled (i : Nat) : (polled.interleave woken).get (2 * i) = polled.get i :=
    Stream'.get_interleave_left i polled woken
  have hwoken (i : Nat) : (polled.interleave woken).get (2 * i + 1) = woken.get i :=
    Stream'.get_interleave_right i polled woken
  constructor
  · have hsame := g.map_fst_generateSleepingFrom (polled.interleave woken) elapsed limit []
    simp only [hpolled] at hsame
    exact hsame
  · intro o sleeps hcall
    have hends := endsAfter_of_generateSleeping hcall
    refine ⟨hends.polls_eq.symm, ?_⟩
    intro i hi
    obtain ⟨y, hpoll, hs⟩ := hends.waits.getElem hi
    have hlength : (sleeps.take i).length = i := List.length_take_of_le (Nat.le_of_lt hi)
    simp only [Surroundings.ofClock, hlength, hpolled, hwoken] at hpoll hs
    exact ⟨y, hpoll, hs⟩

/-- A clock that is behind, then in a used up millisecond, then past it; the first sleep is counted
from a reading before the poll, the second from one past its hint. -/
theorem generateSleeping_interleave_through_full_millisecond :
    let g := resume .default (.resume 100 4095)
    let polled : Stream' UInt64 := fun i => if i = 0 then 98 else 99 + .ofNat i
    let woken : Stream' UInt64 := fun i => 97 + 9 * .ofNat i
    let elapsed (i : Nat) : Span := .ofMillis (3 * .ofNat i)
    let call := g.generateSleeping (.ofClock (polled.interleave woken) elapsed) 3
    let made : Outcome Flake :=
      ⟨.ok (.pack 101 .zero .zero 0), 3, resume .default ⟨some 101, 0⟩⟩
    call = some (made, [3, 1]) ∧ g.generate polled.get elapsed 3 = some made ∧
      ∃ y, g.poll (polled.get 1) = (.ok (.pending y), g) ∧
        (1 : UInt64).toNat = max 1 (y.toNat - (woken.get 1).toNat) := by
  intro g polled woken elapsed call made
  have hcall : call = some (made, [3, 1]) := by
    dsimp only [call, g, polled, woken, elapsed, made]
    rfl
  have h := generateSleeping_interleave g polled woken elapsed 3
  refine ⟨hcall, ?_, (h.2 made [3, 1] hcall).2 1 (by decide)⟩
  have hsame : call.map Prod.fst = g.generate polled.get elapsed 3 := h.1
  rw [← hsame, hcall]
  rfl

end Snowflake.Generator
