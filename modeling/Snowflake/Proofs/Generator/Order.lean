import Snowflake.Proofs.Generator.Call

/-!
The flakes of one generator increase in the order in which they are handed out, whatever calls and
clock readings there are, and lie beyond the checkpoint that the generator started from.
-/

namespace Snowflake.Generator

theorem past_resume (config : Config) {p : Checkpoint} (h : p.last ≤ Flake.maxTimestamp) :
    (resume config (.start (some p))).Past
      (.pack p.last config.worker config.process (min p.sequence 4095)) := by
  have hvalid := (Counter.valid_start (some p)).sequence_le
  have hsequence : (Counter.start (some p)).sequence = min p.sequence 4095 :=
    Counter.sequence_resume p.last p.sequence
  have hposition : (Counter.start (some p)).position =
      p.last.toNat * 2 ^ 12 + (Counter.start (some p)).sequence.toNat + 1 :=
    Counter.position_of_last rfl
  refine ⟨Flake.worker_pack .., Flake.process_pack .., ?_⟩
  change _ < (Counter.start (some p)).position
  rw [hposition, ← hsequence, Flake.serial_pack _ _ h hvalid]
  exact Nat.lt_succ_self _

theorem issued_increasing (config : Config) (start : Option Checkpoint) (calls : List Call) :
    (((resume config (.start start)).issued calls).map Flake.word).Pairwise (· < ·) ∧
      ∀ p, start = some p → p.last ≤ Flake.maxTimestamp →
        ∀ f ∈ (resume config (.start start)).issued calls,
          (Flake.pack p.last config.worker config.process (min p.sequence 4095)).word < f.word := by
  have hvalid := valid_resume config start
  refine ⟨List.pairwise_map.mpr (pairwise_issued hvalid calls), ?_⟩
  rintro p rfl hlast f hf
  exact (past_resume config hlast).word_lt (future_of_mem_issued hvalid calls hf)

theorem issued_increasing_after_full_millisecond :
    let g := resume .default (.start (some ⟨100, 65535⟩))
    let calls : List Call :=
      [.poll 100, .generate (fun i => 99 + .ofNat i) (fun _ => .zero) 5, .poll 98,
        .createUser ⟨⟨"ann", by decide⟩⟩ (fun _ => 101) (fun _ => .zero) 1, .poll 90,
        .mintSleeping .post ⟨fun sleeps => 100 + 2 * .ofNat sleeps.length, fun _ => .zero,
          fun _ => 101⟩ 3, .poll 4398046511104]
    g.issued calls =
        [.pack 101 .zero .zero 0, .pack 101 .zero .zero 1, .pack 102 .zero .zero 0] ∧
      ((g.issued calls).map Flake.word).Pairwise (· < ·) ∧
      ∀ f ∈ g.issued calls, (Flake.pack 100 .zero .zero (min 65535 4095)).word < f.word := by
  intro g calls
  have h := issued_increasing .default (some ⟨100, 65535⟩) calls
  exact ⟨by decide, h.1, h.2 ⟨100, 65535⟩ rfl (by decide)⟩

end Snowflake.Generator
