import Snowflake.Proofs.Flake.Bits

/-!
What is packed into a flake is read back from it, and flakes of one slot compare as their serial
numbers, which put the sequence after the timestamp.
-/

namespace Snowflake.Flake

section Pack

variable (timestamp : UInt64) (worker : WorkerId) (process : ProcessId) (sequence : UInt16)

theorem toNat_timestamp_pack :
    (pack timestamp worker process sequence).timestamp.toNat = timestamp.toNat % 2 ^ 42 := by
  have hw := worker.toNat_lt
  have hp := process.toNat_lt
  rw [toNat_timestamp, toNat_pack]
  omega

@[simp] theorem worker_pack : (pack timestamp worker process sequence).worker = worker := by
  have hw := worker.toNat_lt
  have hp := process.toNat_lt
  apply SlotId.toNat_inj.mp
  rw [toNat_worker, toNat_pack]
  omega

@[simp] theorem process_pack : (pack timestamp worker process sequence).process = process := by
  have hp := process.toNat_lt
  apply SlotId.toNat_inj.mp
  rw [toNat_process, toNat_pack]
  omega

theorem toNat_sequence_pack :
    (pack timestamp worker process sequence).sequence.toNat = sequence.toNat % 2 ^ 12 := by
  rw [toNat_sequence, toNat_pack]
  omega

end Pack

theorem toNat_maxTimestamp : maxTimestamp.toNat = 2 ^ 42 - 1 := by
  decide

theorem toNat_maxSequence : maxSequence.toNat = 2 ^ 12 - 1 := by
  decide

theorem timestamp_pack {timestamp : UInt64} (worker : WorkerId) (process : ProcessId)
    (sequence : UInt16) (ht : timestamp ≤ maxTimestamp) :
    (pack timestamp worker process sequence).timestamp = timestamp := by
  apply UInt64.toNat_inj.mp
  rw [UInt64.le_iff_toNat_le, toNat_maxTimestamp] at ht
  rw [toNat_timestamp_pack]
  omega

theorem sequence_pack (timestamp : UInt64) (worker : WorkerId) (process : ProcessId)
    {sequence : UInt16} (hs : sequence ≤ maxSequence) :
    (pack timestamp worker process sequence).sequence = sequence := by
  apply UInt16.toNat_inj.mp
  rw [UInt16.le_iff_toNat_le, toNat_maxSequence] at hs
  rw [toNat_sequence_pack]
  omega

/-- The number of a flake among all flakes of its slot. -/
def serial (f : Flake) : Nat :=
  f.timestamp.toNat * 2 ^ 12 + f.sequence.toNat

theorem sequence_le_maxSequence (f : Flake) : f.sequence ≤ maxSequence := by
  rw [UInt16.le_iff_toNat_le, toNat_maxSequence, toNat_sequence]
  omega

theorem timestamp_le_maxTimestamp (f : Flake) : f.timestamp ≤ maxTimestamp := by
  have hword := f.word.toNat_lt
  rw [UInt64.le_iff_toNat_le, toNat_maxTimestamp, toNat_timestamp, toNat]
  omega

theorem serial_pack {timestamp : UInt64} (worker : WorkerId) (process : ProcessId)
    {sequence : UInt16} (ht : timestamp ≤ maxTimestamp) (hs : sequence ≤ maxSequence) :
    (pack timestamp worker process sequence).serial =
      timestamp.toNat * 2 ^ 12 + sequence.toNat := by
  rw [serial, timestamp_pack worker process sequence ht, sequence_pack timestamp worker process hs]

theorem word_lt_iff_serial_lt {a b : Flake} (hworker : a.worker = b.worker)
    (hprocess : a.process = b.process) : a.word < b.word ↔ a.serial < b.serial := by
  have hw : a.toNat / 2 ^ 17 % 32 = b.toNat / 2 ^ 17 % 32 := by
    rw [← toNat_worker, ← toNat_worker, hworker]
  have hp : a.toNat / 2 ^ 12 % 32 = b.toNat / 2 ^ 12 % 32 := by
    rw [← toNat_process, ← toNat_process, hprocess]
  simp only [serial, toNat_timestamp, toNat_sequence, UInt64.lt_iff_toNat_lt]
  change a.toNat < b.toNat ↔ _
  omega

end Snowflake.Flake
