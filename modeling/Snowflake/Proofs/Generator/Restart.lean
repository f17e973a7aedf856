import Snowflake.Proofs.Generator.Call

/-!
Restarts from a checkpoint. A generator that goes on from a checkpoint at or past the counter of an
earlier one of its slot hands out only flakes beyond all that the earlier one handed out.
-/

namespace Snowflake

/-- The checkpoint is not before the last number of the counter; any is, before its first one. -/
def Checkpoint.Covers (p : Checkpoint) (c : Counter) : Prop :=
  match c.last with
  | none => True
  | some last => last < p.last ∨ last = p.last ∧ c.sequence ≤ p.sequence

instance (p : Checkpoint) : (c : Counter) → Decidable (p.Covers c)
  | ⟨none, _⟩ => .isTrue trivial
  | ⟨some last, sequence⟩ =>
      inferInstanceAs (Decidable (last < p.last ∨ last = p.last ∧ sequence ≤ p.sequence))

namespace Counter

theorem position_le_of_covers {c : Counter} {p : Checkpoint} (hc : c.Valid) (h : p.Covers c) :
    c.position ≤ (start (some p)).position := by
  have hmax := Flake.toNat_maxSequence
  have hsequence := hc.sequence_le
  rw [UInt16.le_iff_toNat_le] at hsequence
  rw [position_start]
  rcases hlast : c.last with _ | last
  · simp only [position, hlast]
    exact Nat.zero_le _
  · rw [position_of_last hlast]
    simp only [Checkpoint.Covers, hlast] at h
    rcases h with hlt | ⟨rfl, hle⟩
    · rw [UInt64.lt_iff_toNat_lt] at hlt
      omega
    · rw [UInt16.le_iff_toNat_le] at hle
      omega

end Counter

namespace Generator

/-- The generator of the slot of `config` that goes on from a checkpoint, with tolerances of its
own. -/
def restart (config : Config) (p : Checkpoint) (maxSkew waitTimeout : Span) : Generator :=
  resume { config with maxSkew, waitTimeout } (.start (some p))

section Restart

variable (config : Config) (p : Checkpoint) (maxSkew waitTimeout : Span)

theorem valid_restart : (restart config p maxSkew waitTimeout).counter.Valid :=
  valid_resume _ (some p)

theorem precedes_restart (start : Option Checkpoint) (calls : List Call)
    (h : p.Covers ((resume config (.start start)).afterCalls calls).counter) :
    ((resume config (.start start)).afterCalls calls).Precedes
      (restart config p maxSkew waitTimeout) := by
  obtain ⟨hvalid, hprecedes⟩ := afterCalls_advances (valid_resume config start) calls
  exact ⟨hprecedes.worker_eq.symm, hprecedes.process_eq.symm,
    Counter.position_le_of_covers hvalid h⟩

theorem timestamp_of_future_restart {f : Flake}
    (hf : (restart config p maxSkew waitTimeout).Future f) :
    p.last ≤ f.timestamp ∧ (4095 ≤ p.sequence → p.last < f.timestamp) := by
  obtain ⟨hle, hlt⟩ := hf.last_le rfl
  refine ⟨hle, fun hfull => hlt ?_⟩
  change Flake.maxSequence ≤ (Counter.resume p.last p.sequence).sequence
  rw [UInt16.le_iff_toNat_le, Counter.toNat_sequence_resume, Flake.toNat_maxSequence]
  exact le_min (UInt16.le_iff_toNat_le.mp hfull) le_rfl

theorem poll_restart_of_full (hsequence : 4095 ≤ p.sequence) (hlast : p.last ≤ Flake.maxTimestamp) :
    (restart config p maxSkew waitTimeout).poll p.last =
      (.ok (.pending (p.last + 1)), restart config p maxSkew waitTimeout) := by
  apply poll_of_exhausted hlast rfl
  have hfull : 4095 ≤ p.sequence.toNat := UInt16.le_iff_toNat_le.mp hsequence
  change ¬ (Counter.resume p.last p.sequence).sequence < _
  rw [UInt16.lt_iff_toNat_lt, Counter.toNat_sequence_resume, Flake.toNat_maxSequence]
  omega

theorem issued_restart_eq_nil (hlast : Flake.maxTimestamp < p.last) (calls : List Call) :
    (restart config p maxSkew waitTimeout).issued calls = [] := by
  apply List.eq_nil_iff_forall_not_mem.mpr
  intro f hf
  have hfuture := future_of_mem_issued (valid_restart config p maxSkew waitTimeout) calls hf
  have hle := (timestamp_of_future_restart config p maxSkew waitTimeout hfuture).1
  have hmax := f.timestamp_le_maxTimestamp
  rw [UInt64.le_iff_toNat_le] at hle hmax
  rw [UInt64.lt_iff_toNat_lt] at hlast
  omega

end Restart

theorem issued_lt_issued_restart (config : Config) (start : Option Checkpoint) (calls : List Call)
    (p : Checkpoint) (maxSkew waitTimeout : Span) (later : List Call)
    (h : p.Covers ((resume config (.start start)).afterCalls calls).counter) :
    (∀ f ∈ (resume config (.start start)).issued calls,
        ∀ f' ∈ (restart config p maxSkew waitTimeout).issued later, f.word < f'.word) ∧
      (4095 ≤ p.sequence →
        (p.last ≤ Flake.maxTimestamp →
          (restart config p maxSkew waitTimeout).poll p.last =
            (.ok (.pending (p.last + 1)), restart config p maxSkew waitTimeout)) ∧
        ∀ f' ∈ (restart config p maxSkew waitTimeout).issued later, p.last < f'.timestamp) ∧
      (Flake.maxTimestamp < p.last →
        (restart config p maxSkew waitTimeout).issued later = []) := by
  have hfuture : ∀ f' ∈ (restart config p maxSkew waitTimeout).issued later,
      (restart config p maxSkew waitTimeout).Future f' := fun f' hf' =>
    future_of_mem_issued (valid_restart config p maxSkew waitTimeout) later hf'
  refine ⟨?_, fun hfull => ⟨?_, ?_⟩, ?_⟩
  · intro f hf f' hf'
    have hpast := past_of_mem_issued (valid_resume config start) calls hf
    have hprecedes := precedes_restart config p maxSkew waitTimeout start calls h
    exact (hprecedes.past hpast).word_lt (hfuture f' hf')
  · exact poll_restart_of_full config p maxSkew waitTimeout hfull
  · intro f' hf'
    exact (timestamp_of_future_restart config p maxSkew waitTimeout (hfuture f' hf')).2 hfull
  · intro hlast
    exact issued_restart_eq_nil config p maxSkew waitTimeout hlast later

theorem issued_lt_issued_restart_from_full_millisecond :
    let old := resume .default (.start none)
    let calls : List Call := [.poll 100, .generate (fun _ => 100) (fun _ => .zero) 1, .poll 99]
    let new := restart .default ⟨100, 65535⟩ .zero .zero
    let later : List Call := [.poll 50, .poll 100, .poll 101]
    (⟨100, 65535⟩ : Checkpoint).Covers (old.afterCalls calls).counter ∧
      old.issued calls = [.pack 100 .zero .zero 0, .pack 100 .zero .zero 1] ∧
      new.issued later = [.pack 101 .zero .zero 0] ∧
      (∀ f ∈ old.issued calls, ∀ f' ∈ new.issued later, f.word < f'.word) ∧
      new.poll 100 = (.ok (.pending 101), new) := by
  intro old calls new later
  have hcovers : (⟨100, 65535⟩ : Checkpoint).Covers (old.afterCalls calls).counter := by decide
  have h := issued_lt_issued_restart .default none calls ⟨100, 65535⟩ .zero .zero later hcovers
  exact ⟨hcovers, by decide, by decide, h.1, (h.2.1 (by decide)).1 (by decide)⟩

end Generator

end Snowflake
