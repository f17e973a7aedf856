import Snowflake.Generator
import Snowflake.Id

/-!
Calls that wait until the generator is ready. A call polls, and while the answer is to wait it asks
how much time has passed since it began; once that reaches the timeout of the generator it gives up.

What the world outside answers is given as functions: for a call that blocks the `i`th reading of
the clock and the `i`th measure of the time passed, for one that sleeps also the readings that it
takes to find out how long to sleep, all of them as functions of the sleeps it asked for before.
A call that has not ended after `limit` polls gives `none`.
-/

namespace Snowflake

/-- The end of a call: its result, the number of its polls and the generator it leaves. -/
structure Outcome (α : Type) where
  result : Except GenerateError α
  polls : Nat
  generator : Generator

namespace Outcome

variable {α β : Type}

def map (f : α → β) (o : Outcome α) : Outcome β :=
  ⟨o.result.map f, o.polls, o.generator⟩

end Outcome

namespace Generator

/-- One turn of a call: whether it ends and how, or the time that it waits for. -/
inductive Turn where
  | ended (result : Except GenerateError Flake)
  | waiting (yieldUntil : UInt64)

/-- The turn at the reading `now`; `elapsed` is the time passed at the check after the poll. -/
def turn (g : Generator) (now : UInt64) (elapsed : Span) : Turn × Generator :=
  match g.poll now with
  | (.ok (.ready flake), g') => (.ended (.ok flake), g')
  | (.error e, g') => (.ended (.error e), g')
  | (.ok (.pending yieldUntil), g') =>
      if g.waitTimeout ≤ elapsed then (.ended (.error (.waitTimeout yieldUntil)), g')
      else (.waiting yieldUntil, g')

/-- The call from its poll number `i` on. -/
def generateFrom (clock : Nat → UInt64) (elapsed : Nat → Span) :
    (limit i : Nat) → Generator → Option (Outcome Flake)
  | 0, _, _ => none
  | limit + 1, i, g =>
      match g.turn (clock i) (elapsed i) with
      | (.ended result, g') => some ⟨result, i + 1, g'⟩
      | (.waiting _, g') => generateFrom clock elapsed limit (i + 1) g'

def generate (g : Generator) (clock : Nat → UInt64) (elapsed : Nat → Span) (limit : Nat) :
    Option (Outcome Flake) :=
  generateFrom clock elapsed limit 0 g

/-- Generate an identifier of the kind `k`. -/
def mint (k : Kind) (g : Generator) (clock : Nat → UInt64) (elapsed : Nat → Span) (limit : Nat) :
    Option (Outcome (Id k)) :=
  (g.generate clock elapsed limit).map (·.map Id.mk)

/-- What a call that sleeps sees, after the sleeps it asked for so far: the reading of its next
poll, the time passed at the check after it, and the reading from which it counts the next sleep. -/
structure Surroundings where
  clock : List UInt64 → UInt64
  elapsed : List UInt64 → Span
  wake : List UInt64 → UInt64

/-- Milliseconds to sleep, at the reading `now`, for the clock to reach `yieldUntil`. -/
def sleepMillis (yieldUntil now : UInt64) : UInt64 :=
  let ahead := if now < yieldUntil then yieldUntil - now else 0
  if ahead < 1 then 1 else ahead

/-- The call after `sleeps`. -/
def generateSleepingFrom (world : Surroundings) :
    (limit : Nat) → (sleeps : List UInt64) → Generator → Option (Outcome Flake × List UInt64)
  | 0, _, _ => none
  | limit + 1, sleeps, g =>
      match g.turn (world.clock sleeps) (world.elapsed sleeps) with
      | (.ended result, g') => some (⟨result, sleeps.length + 1, g'⟩, sleeps)
      | (.waiting yieldUntil, g') =>
          generateSleepingFrom world limit
            (sleeps ++ [sleepMillis yieldUntil (world.wake sleeps)]) g'

/-- A call that sleeps instead of polling all the time, and the sleeps it asked for. -/
def generateSleeping (g : Generator) (world : Surroundings) (limit : Nat) :
    Option (Outcome Flake × List UInt64) :=
  generateSleepingFrom world limit [] g

def mintSleeping (k : Kind) (g : Generator) (world : Surroundings) (limit : Nat) :
    Option (Outcome (Id k) × List UInt64) :=
  (g.generateSleeping world limit).map fun (o, sleeps) => (o.map Id.mk, sleeps)

end Generator

end Snowflake
