import Snowflake.Proofs.Generator.Poll

/-!
Stopping and going on. Polls change nothing of a generator but its counter, and what a counter shows
of itself is enough to build it again. A generator that goes on from a snapshot therefore answers
every later poll as if it had never been stopped.
-/

namespace Snowflake

namespace Counter

/-- What there is to save of a counter, and nothing before its first number. -/
def checkpoint? (c : Counter) : Option Checkpoint :=
  c.last.map fun last => ⟨last, c.sequence⟩

theorem resume_of_sequence_le {c : Counter} {last : UInt64} (hlast : c.last = some last)
    (hsequence : c.sequence ≤ Flake.maxSequence) : resume last c.sequence = c := by
  rw [resume, if_neg (UInt16.not_lt.mpr hsequence), ← hlast]

theorem Valid.start_checkpoint? {c : Counter} (hc : c.Valid) : start c.checkpoint? = c := by
  rcases hlast : c.last with _ | last
  · rw [checkpoint?, hlast]
    change new = c
    rw [new, ← hlast, ← hc.sequence_eq_zero hlast]
  · rw [checkpoint?, hlast]
    exact resume_of_sequence_le hlast hc.sequence_le

end Counter

namespace Generator

/-- The answers to polls at these readings, in their order. -/
def answers : Generator → List UInt64 → List (Except GenerateError Poll)
  | _, [] => []
  | g, now :: readings => (g.poll now).1 :: answers (g.poll now).2 readings

theorem answers_append (g : Generator) (before after : List UInt64) :
    g.answers (before ++ after) = g.answers before ++ (g.afterPolls before).answers after := by
  induction before generalizing g with
  | nil => rfl
  | cons now before ih =>
      rw [List.cons_append, answers, answers, ih]
      rfl

theorem resume_counter_poll (config : Config) (c : Counter) (now : UInt64) :
    resume config ((resume config c).poll now).2.counter = ((resume config c).poll now).2 := by
  rcases (resume config c).poll_cases now with ⟨-, hsame⟩ | ⟨n, -, -, hpoll⟩
  · rw [hsame]
    rfl
  · rw [hpoll]
    rfl

theorem resume_counter_afterPolls (config : Config) (c : Counter) (readings : List UInt64) :
    resume config ((resume config c).afterPolls readings).counter =
      (resume config c).afterPolls readings := by
  induction readings generalizing c with
  | nil => rfl
  | cons now readings ih =>
      -- The generator after the first poll is again one that goes on from its own counter.
      change resume config (((resume config c).poll now).2.afterPolls readings).counter =
        ((resume config c).poll now).2.afterPolls readings
      rw [← resume_counter_poll]
      exact ih _

theorem answers_append_snapshot (config : Config) (start : Option Checkpoint)
    (before after : List UInt64) :
    let g := resume config (.start start)
    let snapshot := (g.afterPolls before).counter
    g.answers (before ++ after) = g.answers before ++ (resume config snapshot).answers after ∧
      g.answers (before ++ after) =
        g.answers before ++ (resume config (.start snapshot.checkpoint?)).answers after := by
  intro g snapshot
  have hrebuilt : Counter.start snapshot.checkpoint? = snapshot :=
    (afterPolls_advances (valid_resume config start) before).1.start_checkpoint?
  have hresumed : resume config snapshot = g.afterPolls before :=
    resume_counter_afterPolls config (.start start) before
  rw [hrebuilt, hresumed]
  exact ⟨g.answers_append before after, g.answers_append before after⟩

end Generator

end Snowflake
