import Snowflake.Account.User
import Snowflake.Proofs.Generator.Poll

/-!
Runs of calls of any sort. To its generator a call that ends is the one poll that ended it, since
a poll that makes it wait changes nothing; a run of calls is therefore a run of polls.
-/

namespace Snowflake

/-- A call of a generator, with what it sees of the world outside. A call that waits is given up
when it has not ended after `limit` polls. -/
inductive Call where
  | poll (now : UInt64)
  | generate (clock : Nat → UInt64) (elapsed : Nat → Span) (limit : Nat)
  | mint (kind : Kind) (clock : Nat → UInt64) (elapsed : Nat → Span) (limit : Nat)
  | createUser (draft : NewUser) (clock : Nat → UInt64) (elapsed : Nat → Span) (limit : Nat)
  | createPost (draft : NewPost) (clock : Nat → UInt64) (elapsed : Nat → Span) (limit : Nat)
  | generateSleeping (world : Generator.Surroundings) (limit : Nat)
  | mintSleeping (kind : Kind) (world : Generator.Surroundings) (limit : Nat)

theorem Outcome.map_map {α β γ : Type} (h : β → γ) (f : α → β) (o : Outcome α) :
    (o.map f).map h = o.map (h ∘ f) := by
  rcases o with ⟨r, polls, g⟩
  cases r <;> rfl

namespace Generator

section Turn

variable {g g' : Generator} {now yieldUntil : UInt64} {elapsed : Span} {f : Flake}
  {e : GenerateError}

theorem turn_of_ready (h : g.poll now = (.ok (.ready f), g')) :
    g.turn now elapsed = (.ended (.ok f), g') := by
  simp only [turn, h]

theorem turn_of_error (h : g.poll now = (.error e, g')) :
    g.turn now elapsed = (.ended (.error e), g') := by
  simp only [turn, h]

theorem turn_of_timeout (h : g.poll now = (.ok (.pending yieldUntil), g'))
    (htimeout : g.waitTimeout ≤ elapsed) :
    g.turn now elapsed = (.ended (.error (.waitTimeout yieldUntil)), g') := by
  simp only [turn, h, if_pos htimeout]

theorem turn_of_pending (h : g.poll now = (.ok (.pending yieldUntil), g'))
    (htimeout : ¬ g.waitTimeout ≤ elapsed) :
    g.turn now elapsed = (.waiting yieldUntil, g') := by
  simp only [turn, h, if_neg htimeout]

end Turn

/-- All that a turn can do, by the answer of its poll and the time passed. -/
inductive Turns (g : Generator) (now : UInt64) (elapsed : Span) : Turn × Generator → Prop where
  | ready {f : Flake} {g' : Generator} (h : g.poll now = (.ok (.ready f), g')) :
      Turns g now elapsed (.ended (.ok f), g')
  | failed {e : GenerateError} (h : g.poll now = (.error e, g)) :
      Turns g now elapsed (.ended (.error e), g)
  | timeout {y : UInt64} (h : g.poll now = (.ok (.pending y), g))
      (htimeout : g.waitTimeout ≤ elapsed) :
      Turns g now elapsed (.ended (.error (.waitTimeout y)), g)
  | waiting {y : UInt64} (h : g.poll now = (.ok (.pending y), g))
      (htimeout : ¬ g.waitTimeout ≤ elapsed) : Turns g now elapsed (.waiting y, g)

theorem turns (g : Generator) (now : UInt64) (elapsed : Span) :
    g.Turns now elapsed (g.turn now elapsed) := by
  have hsame : flake? (g.poll now).1 = none → (g.poll now).2 = g := eq_of_flake?_eq_none
  rcases hpoll : g.poll now with ⟨e | f | y, g'⟩
  · rw [turn_of_error hpoll]
    rw [hpoll] at hsame
    obtain rfl : g' = g := hsame rfl
    exact .failed hpoll
  · rw [turn_of_ready hpoll]
    exact .ready hpoll
  · rw [hpoll] at hsame
    obtain rfl : g' = g := hsame rfl
    by_cases htimeout : g'.waitTimeout ≤ elapsed
    · rw [turn_of_timeout hpoll htimeout]
      exact .timeout hpoll htimeout
    · rw [turn_of_pending hpoll htimeout]
      exact .waiting hpoll htimeout

/-- A turn that waits leaves the generator as it was, and one that ends the call is its poll. -/
theorem turn_cases (g : Generator) (now : UInt64) (elapsed : Span) :
    (∃ y, g.turn now elapsed = (.waiting y, g)) ∨
      ∃ r, g.turn now elapsed = (.ended r, (g.poll now).2) ∧
        flake? (r.map .ready) = flake? (g.poll now).1 := by
  have hturns := g.turns now elapsed
  generalize g.turn now elapsed = t at hturns ⊢
  cases hturns with
  | ready h =>
      rw [h]
      exact .inr ⟨_, rfl, rfl⟩
  | failed h =>
      rw [h]
      exact .inr ⟨_, rfl, rfl⟩
  | timeout h htimeout =>
      rw [h]
      exact .inr ⟨_, rfl, rfl⟩
  | waiting h htimeout => exact .inl ⟨_, rfl⟩

/-- The outcome hands out and leaves what one poll of `g` does. -/
def IsPoll (g : Generator) (o : Outcome Poll) : Prop :=
  ∃ now, flake? o.result = flake? (g.poll now).1 ∧ o.generator = (g.poll now).2

theorem isPoll_generateFrom {clock : Nat → UInt64} {elapsed : Nat → Span} {limit i : Nat}
    {g : Generator} {o : Outcome Flake} (h : generateFrom clock elapsed limit i g = some o) :
    g.IsPoll (o.map .ready) := by
  induction limit generalizing i with
  | zero => cases h
  | succ limit ih =>
      rcases g.turn_cases (clock i) (elapsed i) with ⟨y, hturn⟩ | ⟨r, hturn, hflake⟩
      · simp only [generateFrom, hturn] at h
        exact ih h
      · simp only [generateFrom, hturn, Option.some.injEq] at h
        subst o
        exact ⟨clock i, hflake, rfl⟩

theorem isPoll_generateSleepingFrom {world : Surroundings} {limit : Nat}
    {sleeps sleeps' : List UInt64} {g : Generator} {o : Outcome Flake}
    (h : generateSleepingFrom world limit sleeps g = some (o, sleeps')) :
    g.IsPoll (o.map .ready) := by
  induction limit generalizing sleeps with
  | zero => cases h
  | succ limit ih =>
      rcases g.turn_cases (world.clock sleeps) (world.elapsed sleeps) with
        ⟨y, hturn⟩ | ⟨r, hturn, hflake⟩
      · simp only [generateSleepingFrom, hturn] at h
        exact ih h
      · simp only [generateSleepingFrom, hturn, Option.some.injEq, Prod.mk.injEq] at h
        obtain ⟨rfl, -⟩ := h
        exact ⟨world.clock sleeps, hflake, rfl⟩

end Generator

namespace Call

/-- The outcome of a call, if it ends, with the flake of what it has made. -/
def outcome? (g : Generator) : Call → Option (Outcome Poll)
  | .poll now => some ⟨(g.poll now).1, 1, (g.poll now).2⟩
  | .generate clock elapsed limit => (g.generate clock elapsed limit).map (·.map .ready)
  | .mint kind clock elapsed limit =>
      (g.mint kind clock elapsed limit).map (·.map fun id => .ready id.flake)
  | .createUser draft clock elapsed limit =>
      (draft.create g clock elapsed limit).map (·.map fun user => .ready user.id.flake)
  | .createPost draft clock elapsed limit =>
      (draft.create g clock elapsed limit).map (·.map fun post => .ready post.id.flake)
  | .generateSleeping world limit =>
      (g.generateSleeping world limit).map fun (o, _) => o.map .ready
  | .mintSleeping kind world limit =>
      (g.mintSleeping kind world limit).map fun (o, _) => o.map fun id => .ready id.flake

section Made

variable (g : Generator) (kind : Kind) (clock : Nat → UInt64) (elapsed : Nat → Span)
  (world : Generator.Surroundings) (limit : Nat)

@[simp] theorem outcome?_mint :
    (mint kind clock elapsed limit).outcome? g = (generate clock elapsed limit).outcome? g := by
  simp [outcome?, Generator.mint, Outcome.map_map, Function.comp_def]

@[simp] theorem outcome?_createUser (draft : NewUser) :
    (createUser draft clock elapsed limit).outcome? g =
      (generate clock elapsed limit).outcome? g := by
  simp [outcome?, NewUser.create, Generator.mint, Outcome.map_map, Function.comp_def]

@[simp] theorem outcome?_createPost (draft : NewPost) :
    (createPost draft clock elapsed limit).outcome? g =
      (generate clock elapsed limit).outcome? g := by
  simp [outcome?, NewPost.create, Generator.mint, Outcome.map_map, Function.comp_def]

@[simp] theorem outcome?_mintSleeping :
    (mintSleeping kind world limit).outcome? g = (generateSleeping world limit).outcome? g := by
  simp [outcome?, Generator.mintSleeping, Outcome.map_map, Function.comp_def]

end Made

theorem isPoll_of_outcome? {g : Generator} {call : Call} {o : Outcome Poll}
    (h : call.outcome? g = some o) : g.IsPoll o := by
  have hgenerate {clock : Nat → UInt64} {elapsed : Nat → Span} {limit : Nat}
      (h : (generate clock elapsed limit).outcome? g = some o) : g.IsPoll o := by
    obtain ⟨o', ho', rfl⟩ := Option.map_eq_some_iff.mp h
    exact Generator.isPoll_generateFrom ho'
  have hsleeping {world : Generator.Surroundings} {limit : Nat}
      (h : (generateSleeping world limit).outcome? g = some o) : g.IsPoll o := by
    obtain ⟨⟨o', sleeps⟩, ho', rfl⟩ := Option.map_eq_some_iff.mp h
    exact Generator.isPoll_generateSleepingFrom ho'
  cases call with
  | poll now =>
      obtain rfl := Option.some.inj h
      exact ⟨now, rfl, rfl⟩
  | generate clock elapsed limit => exact hgenerate h
  | mint kind clock elapsed limit => exact hgenerate (by rwa [outcome?_mint] at h)
  | createUser draft clock elapsed limit => exact hgenerate (by rwa [outcome?_createUser] at h)
  | createPost draft clock elapsed limit => exact hgenerate (by rwa [outcome?_createPost] at h)
  | generateSleeping world limit => exact hsleeping h
  | mintSleeping kind world limit => exact hsleeping (by rwa [outcome?_mintSleeping] at h)

/-- What a call hands out and the generator it leaves. A call that is given up hands out nothing,
and its polls have changed nothing. -/
def run (g : Generator) (call : Call) : Option Flake × Generator :=
  match call.outcome? g with
  | some o => (Generator.flake? o.result, o.generator)
  | none => (none, g)

theorem run_cases (g : Generator) (call : Call) :
    call.run g = (none, g) ∨
      ∃ now, call.run g = (Generator.flake? (g.poll now).1, (g.poll now).2) := by
  rcases h : call.outcome? g with _ | o
  · exact .inl (by simp only [run, h])
  · obtain ⟨now, hflake, hgenerator⟩ := isPoll_of_outcome? h
    exact .inr ⟨now, by simp only [run, h, hflake, hgenerator]⟩

end Call

namespace Generator

/-- The flakes that calls, one after another, hand out, in their order. -/
def issued : Generator → List Call → List Flake
  | _, [] => []
  | g, call :: calls => (call.run g).1.toList ++ issued (call.run g).2 calls

def afterCalls (g : Generator) (calls : List Call) : Generator :=
  calls.foldl (fun g call => (call.run g).2) g

theorem afterCalls_cons (g : Generator) (call : Call) (calls : List Call) :
    g.afterCalls (call :: calls) = (call.run g).2.afterCalls calls :=
  rfl

theorem exists_polled (g : Generator) (calls : List Call) :
    ∃ readings, g.issued calls = g.polled readings ∧
      g.afterCalls calls = g.afterPolls readings := by
  induction calls generalizing g with
  | nil => exact ⟨[], rfl, rfl⟩
  | cons call calls ih =>
      rcases call.run_cases g with hrun | ⟨now, hrun⟩
      · obtain ⟨readings, hissued, hafter⟩ := ih g
        refine ⟨readings, ?_, ?_⟩
        · rw [issued, hrun]
          exact hissued
        · rw [afterCalls_cons, hrun]
          exact hafter
      · obtain ⟨readings, hissued, hafter⟩ := ih (g.poll now).2
        refine ⟨now :: readings, ?_, ?_⟩
        · rw [issued, polled, hrun, hissued]
        · rw [afterCalls_cons, hrun]
          exact hafter

section Issued

variable {g : Generator} (hg : g.counter.Valid) (calls : List Call)

include hg

theorem afterCalls_advances :
    (g.afterCalls calls).counter.Valid ∧ g.Precedes (g.afterCalls calls) := by
  obtain ⟨readings, -, hafter⟩ := g.exists_polled calls
  rw [hafter]
  exact afterPolls_advances hg readings

theorem future_of_mem_issued {f : Flake} (hf : f ∈ g.issued calls) : g.Future f := by
  obtain ⟨readings, hissued, -⟩ := g.exists_polled calls
  rw [hissued] at hf
  exact future_of_mem_polled hg readings hf

theorem past_of_mem_issued {f : Flake} (hf : f ∈ g.issued calls) : (g.afterCalls calls).Past f := by
  obtain ⟨readings, hissued, hafter⟩ := g.exists_polled calls
  rw [hissued] at hf
  rw [hafter]
  exact past_of_mem_polled hg readings hf

theorem pairwise_issued : (g.issued calls).Pairwise fun f f' => f.word < f'.word := by
  obtain ⟨readings, hissued, -⟩ := g.exists_polled calls
  rw [hissued]
  exact pairwise_polled hg readings

end Issued

end Generator

end Snowflake
