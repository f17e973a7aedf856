import Snowflake.Generator.Series
import Snowflake.Proofs.Generator.Iteration

/-!
What a series of calls makes. To the generator it is a run of polls, at the readings of all its
calls one after another, and what it has made is all that these polls hand out.
-/

namespace Snowflake.Generator

/-- From `g` to `g'` by polls at these readings, which hand out these flakes and no others. -/
structure Issues (g : Generator) (readings : List UInt64) (flakes : List Flake)
    (g' : Generator) : Prop where
  polled_eq : g.polled readings = flakes
  afterPolls_eq : g.afterPolls readings = g'

namespace Issues

variable {g g' g'' : Generator} {readings readings' : List UInt64} {flakes flakes' : List Flake}

theorem nil (g : Generator) : g.Issues [] [] g :=
  ⟨rfl, rfl⟩

theorem append (h : g.Issues readings flakes g') (h' : g'.Issues readings' flakes' g'') :
    g.Issues (readings ++ readings') (flakes ++ flakes') g'' := by
  obtain ⟨rfl, rfl⟩ := h
  obtain ⟨rfl, rfl⟩ := h'
  exact ⟨g.polled_append readings readings', g.afterPolls_append readings readings'⟩

theorem waitTimeout_eq (h : g.Issues readings flakes g') : g'.waitTimeout = g.waitTimeout := by
  rw [← h.afterPolls_eq, waitTimeout_afterPolls]

end Issues

section Call

variable {g : Generator} {clock : Nat → UInt64} {elapsed : Nat → Span} {limit limit' : Nat}
  {o : Outcome Flake}

theorem polled_of_waits {k : Nat}
    (h : ∀ j < k, ∃ y, g.turn (clock j) (elapsed j) = (.waiting y, g)) :
    g.polled ((List.range k).map clock) = [] := by
  induction k with
  | zero => rfl
  | succ k ih =>
      have hearlier : ∀ j < k, ∃ y, g.turn (clock j) (elapsed j) = (.waiting y, g) :=
        fun j hj => h j (Nat.lt_succ_of_lt hj)
      obtain ⟨y, hturn⟩ := h k (Nat.lt_succ_self k)
      rw [List.range_succ, List.map_append, polled_append, ih hearlier,
        afterPolls_of_waits hearlier, List.map_singleton, polled, (turn_eq_waiting_iff.mp hturn).1]
      rfl

/-- A call hands out the flake of its last poll, if that poll has one, and the polls before it hand
out nothing. -/
theorem issues_of_generate (h : g.generate clock elapsed limit = some o) :
    g.Issues ((List.range o.polls).map clock) o.result.toOption.toList o.generator := by
  obtain ⟨k, -, hends⟩ := generate_eq_some_iff.mp h
  have hwaits := hends.waits
  obtain ⟨-, rfl⟩ := endsAt_iff.mp hends
  refine ⟨?_, rfl⟩
  have hanswer : g.answerAt clock k = (g.poll (clock k)).1 := by
    rw [answerAt, afterPolls_of_waits hwaits]
  rw [List.range_succ, List.map_append, polled_append, polled_of_waits hwaits,
    afterPolls_of_waits hwaits, hanswer, List.map_singleton, polled]
  rcases (g.poll (clock k)).1 with e | f | y <;> rfl

theorem generate_of_le (h : g.generate clock elapsed limit = some o) (hle : limit ≤ limit') :
    g.generate clock elapsed limit' = some o := by
  obtain ⟨k, hlt, hends⟩ := generate_eq_some_iff.mp h
  exact generate_eq_some_iff.mpr ⟨k, Nat.lt_of_lt_of_le hlt hle, hends⟩

end Call

section Series

variable {k : Kind} {clock : Nat → UInt64} {elapsed : Nat → Nat → Span}

theorem readings_add (clock : Nat → UInt64) (start polls polls' : Nat) :
    (List.range (polls + polls')).map (fun i => clock (start + i)) =
      (List.range polls).map (fun i => clock (start + i)) ++
        (List.range polls').map fun i => clock (start + polls + i) := by
  rw [List.range_add, List.map_append, List.map_map]
  simp only [Function.comp_def, Nat.add_assoc]

/-- How a series goes, call by call, from call number `call` and reading number `start` on. -/
inductive Makes (k : Kind) (clock : Nat → UInt64) (elapsed : Nat → Nat → Span) (limit : Nat) :
    (count call start : Nat) → Generator → Series k → Prop where
  | done {call start : Nat} {g : Generator} :
      Makes k clock elapsed limit 0 call start g ⟨[], none, 0, g⟩
  | failed {count call start polls : Nat} {g g' : Generator} {e : GenerateError}
      (h : g.generate (fun i => clock (start + i)) (elapsed call) limit =
        some ⟨.error e, polls, g'⟩) :
      Makes k clock elapsed limit (count + 1) call start g ⟨[], some e, polls, g'⟩
  | made {count call start polls : Nat} {g g' : Generator} {f : Flake} {s : Series k}
      (h : g.generate (fun i => clock (start + i)) (elapsed call) limit = some ⟨.ok f, polls, g'⟩)
      (hrest : Makes k clock elapsed limit count (call + 1) (start + polls) g' s) :
      Makes k clock elapsed limit (count + 1) call start g
        ⟨⟨f⟩ :: s.made, s.failure, polls + s.polls, s.generator⟩

variable {limit limit' count call start : Nat} {g : Generator} {s : Series k}

theorem makes_of_seriesFrom
    (h : seriesFrom k clock elapsed limit count call start g = some s) :
    Makes k clock elapsed limit count call start g s := by
  induction count generalizing call start g s with
  | zero =>
      cases h
      exact .done
  | succ count ih =>
      rcases hcall : g.generate (fun i => clock (start + i)) (elapsed call) limit with
        _ | ⟨e | f, polls, g'⟩
      · simp [seriesFrom, mint, hcall] at h
      · simp only [seriesFrom, mint, hcall] at h
        cases h
        exact .failed hcall
      · simp only [seriesFrom, mint, hcall] at h
        obtain ⟨s', hrest, rfl⟩ := Option.map_eq_some_iff.mp h
        exact .made hcall (ih hrest)

namespace Makes

theorem seriesFrom_eq (h : Makes k clock elapsed limit count call start g s) :
    seriesFrom k clock elapsed limit count call start g = some s := by
  induction h with
  | done => rfl
  | failed h =>
      simp only [seriesFrom, mint, h]
      rfl
  | made h _ ih =>
      simp only [seriesFrom, mint, h]
      exact Option.map_eq_some_iff.mpr ⟨_, ih, rfl⟩

theorem of_le (h : Makes k clock elapsed limit count call start g s) (hle : limit ≤ limit') :
    Makes k clock elapsed limit' count call start g s := by
  induction h with
  | done => exact .done
  | failed h => exact .failed (generate_of_le h hle)
  | made h _ ih => exact .made (generate_of_le h hle) ih

/-- What was made is all that the polls of all calls handed out. -/
theorem issues (h : Makes k clock elapsed limit count call start g s) :
    g.Issues ((List.range s.polls).map fun i => clock (start + i)) (s.made.map Id.flake)
      s.generator := by
  induction h with
  | done => exact .nil _
  | failed h => exact issues_of_generate h
  | made h _ ih =>
      rw [readings_add]
      exact (issues_of_generate h).append ih

theorem length_le (h : Makes k clock elapsed limit count call start g s) :
    s.made.length ≤ count := by
  induction h with
  | done => exact Nat.le_refl 0
  | failed h => exact Nat.zero_le _
  | made h _ ih => exact Nat.succ_le_succ ih

theorem failure_eq_none_iff (h : Makes k clock elapsed limit count call start g s) :
    s.failure = none ↔ s.made.length = count := by
  induction h with
  | done => simp
  | failed h => simp
  | made h _ ih =>
      rw [List.length_cons, Nat.succ_inj]
      exact ih

end Makes

/-- A series comes to an end if in each of its calls a check finds the time up. -/
theorem exists_makes
    (h : ∀ i < count, ∃ j < limit, g.waitTimeout ≤ elapsed (call + i) j) (start : Nat) :
    ∃ s, Makes k clock elapsed limit count call start g s := by
  induction count generalizing call start g with
  | zero => exact ⟨_, .done⟩
  | succ count ih =>
      obtain ⟨j, hlt, hup⟩ := h 0 (Nat.succ_pos count)
      obtain ⟨⟨e | f, polls, g'⟩, hcall⟩ :=
        g.exists_generate (fun i => clock (start + i)) hup hlt
      · exact ⟨_, .failed hcall⟩
      · have hrest : ∀ i < count, ∃ j < limit, g'.waitTimeout ≤ elapsed (call + 1 + i) j := by
          intro i hi
          obtain ⟨j, hlt, hup⟩ := h (i + 1) (Nat.succ_lt_succ hi)
          refine ⟨j, hlt, ?_⟩
          rw [(issues_of_generate hcall).waitTimeout_eq, Nat.add_assoc, Nat.add_comm 1 i]
          exact hup
        obtain ⟨s, hs⟩ := ih hrest (start + polls)
        exact ⟨_, .made hcall hs⟩

end Series

end Snowflake.Generator
