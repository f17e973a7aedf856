import Snowflake.Generator.Waiting

/-!
Series of identifiers, made by one generator call after call. A series that fails keeps the
identifiers made until then.
-/

namespace Snowflake

/-- The end of a series: what was made, the error of the call that failed if one did, the number of
polls of all calls and the generator they leave. -/
structure Series (k : Kind) where
  made : List (Id k)
  failure : Option GenerateError
  polls : Nat
  generator : Generator

namespace Generator

/-- A series of `count` identifiers. `clock` counts the readings of the clock over all calls,
beginning with number `start`, and `elapsed` measures the time of every call on its own, beginning
with call number `call`. There is none if a call does not end after `limit` polls. -/
def seriesFrom (k : Kind) (clock : Nat → UInt64) (elapsed : Nat → Nat → Span) (limit : Nat) :
    (count call start : Nat) → Generator → Option (Series k)
  | 0, _, _, g => some ⟨[], none, 0, g⟩
  | count + 1, call, start, g =>
      match g.mint k (fun i => clock (start + i)) (elapsed call) limit with
      | none => none
      | some ⟨.error e, polls, g'⟩ => some ⟨[], some e, polls, g'⟩
      | some ⟨.ok id, polls, g'⟩ =>
          (seriesFrom k clock elapsed limit count (call + 1) (start + polls) g').map fun s =>
            { s with made := id :: s.made, polls := polls + s.polls }

def series (k : Kind) (count : Nat) (g : Generator) (clock : Nat → UInt64)
    (elapsed : Nat → Nat → Span) (limit : Nat) : Option (Series k) :=
  g.seriesFrom k clock elapsed limit count 0 0

end Generator

end Snowflake
