import Snowflake.Proofs.Generator.Exact

/-!
The times for which a poll tells its caller to wait. No poll before the hint is ever ready, and a
poll after it is. At the hint itself a poll is ready too, unless the clock has only come back to a
millisecond that is used up; then the next hint is the last one.
-/

namespace Snowflake

/-- The counter stands at the millisecond `y` and has given all its numbers. -/
def Counter.UsedUp (c : Counter) (y : UInt64) : Prop :=
  c.last = some y ∧ Flake.maxSequence ≤ c.sequence

instance (c : Counter) (y : UInt64) : Decidable (c.UsedUp y) :=
  inferInstanceAs (Decidable (c.last = some y ∧ Flake.maxSequence ≤ c.sequence))

namespace Generator

section Last

variable {g : Generator} {last t : UInt64} (hlast : g.counter.last = some last)
include hlast

theorem poll_of_last_lt (ht : t ≤ Flake.maxTimestamp) (hlt : last < t) :
    (g.poll t).1 = .ok (.ready (.pack t g.worker g.process 0)) := by
  rw [poll_of_next_ok ht (Counter.next_of_last_lt hlast hlt)]

theorem poll_last_of_not_usedUp (ht : last ≤ Flake.maxTimestamp) (h : ¬ g.counter.UsedUp last) :
    ∃ n, (g.poll last).1 = .ok (.ready (.pack last g.worker g.process n)) := by
  have hless : g.counter.sequence < Flake.maxSequence :=
    UInt16.not_le.mp fun hfull => h ⟨hlast, hfull⟩
  exact ⟨_, by rw [poll_of_next_ok ht (Counter.next_of_sequence_lt hlast hless)]⟩

end Last

theorem toNat_next_millisecond {now : UInt64} (hnow : now ≤ Flake.maxTimestamp) :
    (now + 1).toNat = now.toNat + 1 := by
  rw [UInt64.le_iff_toNat_le, Flake.toNat_maxTimestamp] at hnow
  rw [UInt64.toNat_add, UInt64.toNat_one]
  omega

namespace Pending

variable {g : Generator} {now y t y' : UInt64} (h : g.Pending now y)
  (hnow : now ≤ Flake.maxTimestamp)
include h hnow

/-- A hint lies at the last millisecond of the counter, or right after it if that is used up. -/
theorem last_cases :
    g.counter.last = some y ∧ now < y ∨
      ∃ last, g.counter.last = some last ∧ y.toNat = last.toNat + 1 ∧
        Flake.maxSequence ≤ g.counter.sequence := by
  cases h with
  | exhausted hlast hfull => exact .inr ⟨now, hlast, toNat_next_millisecond hnow, hfull⟩
  | behind hlast hlt hskew => exact .inl ⟨hlast, hlt⟩

theorem le_timestamp {f : Flake} (hf : g.Future f) : y ≤ f.timestamp := by
  rcases h.last_cases hnow with ⟨hlast, -⟩ | ⟨last, hlast, hy, hfull⟩
  · exact (hf.last_le hlast).1
  · have hlt := (hf.last_le hlast).2 hfull
    rw [UInt64.lt_iff_toNat_lt] at hlt
    rw [UInt64.le_iff_toNat_le]
    omega

theorem poll_of_lt (ht : t ≤ Flake.maxTimestamp) (hlt : y < t) :
    (g.poll t).1 = .ok (.ready (.pack t g.worker g.process 0)) := by
  rcases h.last_cases hnow with ⟨hlast, -⟩ | ⟨last, hlast, hy, -⟩
  · exact poll_of_last_lt hlast ht hlt
  · rw [UInt64.lt_iff_toNat_lt] at hlt
    exact poll_of_last_lt hlast ht (UInt64.lt_iff_toNat_lt.mpr (by omega))

theorem poll_hint_of_not_usedUp (hy : y ≤ Flake.maxTimestamp) (hfree : ¬ g.counter.UsedUp y) :
    ∃ n, (g.poll y).1 = .ok (.ready (.pack y g.worker g.process n)) := by
  rcases h.last_cases hnow with ⟨hlast, -⟩ | ⟨last, hlast, hnext, -⟩
  · exact poll_last_of_not_usedUp hlast hy hfree
  · exact ⟨0, poll_of_last_lt hlast hy (UInt64.lt_iff_toNat_lt.mpr (by omega))⟩

/-- Only a clock that fell back finds the hint used up. -/
theorem lt_of_usedUp (hused : g.counter.UsedUp y) : now < y := by
  rcases h.last_cases hnow with ⟨-, hlt⟩ | ⟨last, hlast, hy, -⟩
  · exact hlt
  · obtain rfl : last = y := Option.some_inj.mp (hlast.symm.trans hused.1)
    omega

theorem poll_cases_of_le (ht : t ≤ Flake.maxTimestamp) (hle : y ≤ t) :
    (∃ n, (g.poll t).1 = .ok (.ready (.pack t g.worker g.process n))) ∨
      t = y ∧ g.counter.UsedUp y := by
  rcases UInt64.lt_or_eq_of_le hle with hlt | rfl
  · exact .inl ⟨0, h.poll_of_lt hnow ht hlt⟩
  · by_cases hused : g.counter.UsedUp y
    · exact .inr ⟨rfl, hused⟩
    · exact .inl (h.poll_hint_of_not_usedUp hnow ht hused)

end Pending

theorem poll_of_usedUp {g : Generator} {y : UInt64} (hy : y ≤ Flake.maxTimestamp)
    (hused : g.counter.UsedUp y) : g.poll y = (.ok (.pending (y + 1)), g) :=
  (Pending.exhausted hused.1 hused.2).poll_eq hy

/-- A caller that polls again after each hint: the hints that it gets, and the first answer that is
none. `clock` gives the reading of the poll after the hints so far. -/
def backOff (clock : List UInt64 → UInt64) :
    (limit : Nat) → (hints : List UInt64) → Generator →
      Option (List UInt64 × Except GenerateError Poll)
  | 0, _, _ => none
  | limit + 1, hints, g =>
      match g.poll (clock hints) with
      | (.ok (.pending y), g') => backOff clock limit (hints ++ [y]) g'
      | (answer, _) => some (hints, answer)

/-- No poll comes before the clock has reached the last hint. -/
def Patient (clock : List UInt64 → UInt64) : Prop :=
  ∀ hints y, y ≤ clock (hints ++ [y])

section BackOff

variable {g : Generator} {clock : List UInt64 → UInt64} {hints : List UInt64} {now y : UInt64}

theorem backOff_of_pending (h : g.poll (clock hints) = (.ok (.pending y), g)) (limit : Nat) :
    backOff clock (limit + 1) hints g = backOff clock limit (hints ++ [y]) g := by
  simp only [backOff, h]

theorem backOff_of_ready
    (h : clock hints ≤ Flake.maxTimestamp → ∃ f, (g.poll (clock hints)).1 = .ok (.ready f))
    (limit : Nat) :
    ∃ answer, backOff clock (limit + 1) hints g = some (hints, answer) ∧
      (clock hints ≤ Flake.maxTimestamp → ∃ f, answer = .ok (.ready f)) := by
  by_cases hover : Flake.maxTimestamp < clock hints
  · exact ⟨.error (.timestampOverflow (clock hints)),
      by simp only [backOff, poll_of_overflow hover],
      fun hle => absurd hle (UInt64.not_le.mpr hover)⟩
  · obtain ⟨f, hf⟩ := h (UInt64.not_lt.mp hover)
    rcases hpoll : g.poll (clock hints) with ⟨answer, g'⟩
    rw [hpoll] at hf
    cases hf
    exact ⟨_, by simp only [backOff, hpoll], fun _ => ⟨f, rfl⟩⟩

theorem Pending.exists_backOff (h : g.Pending (clock []) y) (hnow : clock [] ≤ Flake.maxTimestamp)
    (hclock : Patient clock) (limit : Nat) :
    ∃ hints answer, backOff clock (limit + 3) [] g = some (hints, answer) ∧ hints.length ≤ 2 ∧
      (clock hints ≤ Flake.maxTimestamp → ∃ f, answer = .ok (.ready f)) := by
  rw [backOff_of_pending (h.poll_eq hnow)]
  have hfirst : y ≤ clock [y] := hclock [] y
  by_cases hagain : clock [y] = y ∧ clock [y] ≤ Flake.maxTimestamp ∧ g.counter.UsedUp y
  -- The millisecond of the first hint is used up, and the second hint is the one after it.
  · obtain ⟨hclock₁, hmax, hused⟩ := hagain
    rw [hclock₁] at hmax
    have hsecond : y + 1 ≤ clock [y, y + 1] := hclock [y] (y + 1)
    have hready : clock [y, y + 1] ≤ Flake.maxTimestamp →
        ∃ f, (g.poll (clock [y, y + 1])).1 = .ok (.ready f) := by
      intro hle
      have hnext := toNat_next_millisecond hmax
      rw [UInt64.le_iff_toNat_le] at hsecond
      exact ⟨_, poll_of_last_lt hused.1 hle (UInt64.lt_iff_toNat_lt.mpr (by omega))⟩
    obtain ⟨answer, hanswer, hflake⟩ := backOff_of_ready hready limit
    refine ⟨[y, y + 1], answer, ?_, Nat.le_refl 2, hflake⟩
    rw [List.nil_append, backOff_of_pending (by rw [hclock₁]; exact poll_of_usedUp hmax hused)]
    exact hanswer
  · have hready : clock [y] ≤ Flake.maxTimestamp →
        ∃ f, (g.poll (clock [y])).1 = .ok (.ready f) := by
      intro hle
      rcases h.poll_cases_of_le hnow hle hfirst with ⟨n, hpoll⟩ | ⟨heq, hused⟩
      · exact ⟨_, hpoll⟩
      · exact absurd ⟨heq, hle, hused⟩ hagain
    obtain ⟨answer, hanswer, hflake⟩ := backOff_of_ready hready (limit + 1)
    exact ⟨[y], answer, hanswer, Nat.le_succ 1, hflake⟩

end BackOff

/-- A hint is sound and tight. Before it the generator hands out nothing, whatever else is asked of
it in between. Right after it a poll is ready, and so is one at the hint itself, with the single
exception of a clock that fell back from a millisecond that is used up: there the hint is the next
millisecond, and that is the last one. Whoever waits for each hint therefore gets at most two, and
then a flake, as long as the clock has not run out. -/
theorem poll_after_hint (config : Config) (start : Option Checkpoint) (calls : List Call)
    (now y : UInt64)
    (h : (((resume config (.start start)).afterCalls calls).poll now).1 = .ok (.pending y)) :
    let g := (((resume config (.start start)).afterCalls calls).poll now).2
    (∀ later, (∀ f ∈ g.issued later, y ≤ f.timestamp) ∧
      ∀ t < y, flake? ((g.afterCalls later).poll t).1 = none) ∧
    (∀ t, y < t → t ≤ Flake.maxTimestamp →
      (g.poll t).1 = .ok (.ready (.pack t config.worker config.process 0))) ∧
    (y ≤ Flake.maxTimestamp →
      (¬ g.counter.UsedUp y →
        ∃ n, (g.poll y).1 = .ok (.ready (.pack y config.worker config.process n))) ∧
      (g.counter.UsedUp y → now < y ∧ (g.poll y).1 = .ok (.pending (y + 1)) ∧
        ∀ t, y < t → t ≤ Flake.maxTimestamp →
          ((g.poll y).2.poll t).1 = .ok (.ready (.pack t config.worker config.process 0)))) ∧
    ∀ clock limit, clock [] = now → Patient clock →
      ∃ hints answer, backOff clock (limit + 3) [] g = some (hints, answer) ∧ hints.length ≤ 2 ∧
        (clock hints ≤ Flake.maxTimestamp → ∃ f, answer = .ok (.ready f)) := by
  obtain ⟨hvalid, hprecedes⟩ := afterCalls_advances (valid_resume config start) calls
  intro g
  obtain ⟨hsame, hnow, hpending⟩ := poll_eq_pending_iff.mp (Prod.ext h rfl)
  have hg : g = (resume config (.start start)).afterCalls calls := hsame
  rw [← hg] at hvalid hprecedes hpending
  have hworker : g.worker = config.worker := hprecedes.worker_eq
  have hprocess : g.process = config.process := hprecedes.process_eq
  rw [← hworker, ← hprocess]
  have hafter (t : UInt64) (hlt : y < t) (ht : t ≤ Flake.maxTimestamp) :
      (g.poll t).1 = .ok (.ready (.pack t g.worker g.process 0)) :=
    hpending.poll_of_lt hnow ht hlt
  refine ⟨fun later => ⟨?_, ?_⟩, hafter,
    fun hy => ⟨hpending.poll_hint_of_not_usedUp hnow hy, ?_⟩, ?_⟩
  · intro f hf
    exact hpending.le_timestamp hnow (future_of_mem_issued hvalid later hf)
  · intro t hlt
    obtain ⟨hvalid', hprecedes'⟩ := afterCalls_advances hvalid later
    by_contra hready
    obtain ⟨f, hf⟩ := Option.ne_none_iff_exists'.mp hready
    obtain ⟨n, -, hfields⟩ := fields_of_poll hf
    have htimestamp : f.timestamp = t := congrArg Fields.timestamp hfields
    have hfuture := hprecedes'.future ((poll_advances hvalid' t).2.2 f hf).1
    have hle := hpending.le_timestamp hnow hfuture
    rw [htimestamp] at hle
    exact absurd hle (UInt64.not_le.mpr hlt)
  · intro hused
    rw [poll_of_usedUp hy hused]
    exact ⟨hpending.lt_of_usedUp hnow hused, rfl, hafter⟩
  · rintro clock limit rfl hclock
    exact hpending.exists_backOff hnow hclock limit

/-- Back from a used up millisecond, which the clock reaches again and then leaves. -/
theorem poll_after_hint_of_used_up_millisecond :
    let g := (resume .default (.start (some ⟨100, 4094⟩))).afterCalls [.poll 100]
    let clock (hints : List UInt64) : UInt64 := hints.getLast?.getD 98
    (g.poll 98).1 = .ok (.pending 100) ∧ g.counter.UsedUp 100 ∧ Patient clock ∧
      (∀ f ∈ g.issued [.poll 99, .poll 102, .poll 100], 100 ≤ f.timestamp) ∧
      (g.poll 100).1 = .ok (.pending 101) ∧
      (g.poll 101).1 = .ok (.ready (.pack 101 .zero .zero 0)) ∧
      ∃ f, backOff clock 3 [] g = some ([100, 101], .ok (.ready f)) := by
  intro g clock
  have hhint : (g.poll 98).1 = .ok (.pending 100) := by decide
  have hsame : (g.poll 98).2 = g := by decide
  have hused : g.counter.UsedUp 100 := by decide
  have hpatient : Patient clock := fun hints y => by simp [clock]
  obtain ⟨hbefore, hafter, hat, hpatience⟩ :=
    poll_after_hint .default (some ⟨100, 4094⟩) [.poll 100] 98 100 hhint
  rw [hsame] at hbefore hafter hat hpatience
  obtain ⟨-, hagain, -⟩ := (hat (by decide)).2 hused
  obtain ⟨hints, answer, hbackOff, -, hready⟩ := hpatience clock 0 rfl hpatient
  have hhints : (backOff clock 3 [] g).map Prod.fst = some [100, 101] := by decide
  rw [hbackOff] at hhints
  obtain rfl : hints = [100, 101] := Option.some_inj.mp hhints
  obtain ⟨f, rfl⟩ := hready (by decide)
  exact ⟨hhint, hused, hpatient, (hbefore _).1, hagain, hafter 101 (by decide) (by decide), f,
    hbackOff⟩

end Generator

end Snowflake
