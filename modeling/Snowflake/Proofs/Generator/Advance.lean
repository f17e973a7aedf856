import Snowflake.Proofs.Generator.Call

/-!
What a call does to its generator. A call that hands out nothing leaves it as it was, however often
it polled. One that hands out a flake makes a single step of the counter: the step in the
millisecond of the flake, which gives the number of the flake.
-/

namespace Snowflake

theorem Counter.le_maxSequence_of_next_ok {c c' : Counter} {now : UInt64} {n : UInt16}
    (h : c.next now = (.ok n, c')) : n ≤ Flake.maxSequence := by
  rcases c.next_cases now with ⟨e, herror, -⟩ | ⟨m, hok, hm⟩
  · rw [herror] at h
    cases h
  rw [hok] at h
  cases h
  rcases hm with ⟨-, rfl⟩ | ⟨-, hless, rfl⟩
  · decide
  · have hnumber := toNat_sequence_add_one hless
    rw [UInt16.lt_iff_toNat_lt] at hless
    rw [UInt16.le_iff_toNat_le]
    omega

namespace Generator

/-- From `g` to `g'` by the one step of the counter that makes `f`. -/
structure Advances (g : Generator) (f : Flake) (g' : Generator) : Prop where
  next_eq : g.counter.next f.timestamp = (.ok f.sequence, g'.counter)
  worker_eq : f.worker = g.worker
  process_eq : f.process = g.process
  generator_eq : g' = { g with counter := g'.counter }

theorem advances_of_poll {g : Generator} {now : UInt64} {f : Flake}
    (h : flake? (g.poll now).1 = some f) : g.Advances f (g.poll now).2 := by
  rcases g.poll_cases now with ⟨hnone, -⟩ | ⟨n, hnow, hnext, hpoll⟩
  · rw [hnone] at h
    cases h
  rw [hpoll] at h ⊢
  cases h
  refine ⟨?_, Flake.worker_pack .., Flake.process_pack .., rfl⟩
  rw [Flake.timestamp_pack _ _ _ hnow,
    Flake.sequence_pack _ _ _ (Counter.le_maxSequence_of_next_ok hnext)]
  exact hnext

theorem outcome_advances {g : Generator} {call : Call} {o : Outcome Poll}
    (h : call.outcome? g = some o) :
    (flake? o.result = none → o.generator = g) ∧
      ∀ f, flake? o.result = some f → g.Advances f o.generator := by
  obtain ⟨now, hflake, hgenerator⟩ := Call.isPoll_of_outcome? h
  rw [hflake, hgenerator]
  constructor
  · intro hnone
    exact eq_of_flake?_eq_none hnone
  · intro f hf
    exact advances_of_poll hf

theorem outcome_advances_after_waiting :
    let g := resume .default (.start (some ⟨100, 4094⟩))
    let failing : Call := .mint .post (fun i => 99 - 4 * .ofNat i) (fun _ => .zero) 5
    let making : Call := .createUser ⟨⟨"ann", by decide⟩⟩ (fun i => 97 + .ofNat i)
      (fun _ => .zero) 5
    let failed : Outcome Poll := ⟨.error (.clockRegression 100 91), 3, g⟩
    let made : Outcome Poll :=
      ⟨.ok (.ready (.pack 100 .zero .zero 4095)), 4, resume .default ⟨some 100, 4095⟩⟩
    failing.outcome? g = some failed ∧ making.outcome? g = some made ∧
      failed.generator = g ∧ g.Advances (.pack 100 .zero .zero 4095) made.generator := by
  intro g failing making failed made
  have hfailed : failing.outcome? g = some failed := by rfl
  have hmade : making.outcome? g = some made := by rfl
  exact ⟨hfailed, hmade, (outcome_advances hfailed).1 rfl, (outcome_advances hmade).2 _ rfl⟩

end Generator

end Snowflake
