import Snowflake.Proofs.Flake.Fields

/-!
Flakes and the fields that fit into one correspond one to one. Of a field that does not fit, packing
keeps the low bits, and those it drops reach no other field.
-/

namespace Snowflake

/-- The timestamp and the sequence lie within the layout, as worker and process always do. -/
def Fields.Fit (p : Fields) : Prop :=
  p.timestamp ≤ Flake.maxTimestamp ∧ p.sequence ≤ Flake.maxSequence

namespace Flake

theorem toNat_inj {a b : Flake} : a.toNat = b.toNat ↔ a = b := by
  constructor
  · intro h
    cases a
    cases b
    rw [Flake.mk.injEq]
    exact UInt64.toNat_inj.mp h
  · rintro rfl
    rfl

theorem pack_fields (f : Flake) : f.fields.pack = f := by
  have hword := f.word.toNat_lt
  apply toNat_inj.mp
  rw [Fields.pack, toNat_pack]
  simp only [fields, toNat_timestamp, toNat_worker, toNat_process, toNat_sequence]
  simp only [toNat]
  omega

theorem fit_fields (f : Flake) : f.fields.Fit :=
  ⟨f.timestamp_le_maxTimestamp, f.sequence_le_maxSequence⟩

theorem fields_pack (timestamp : UInt64) (worker : WorkerId) (process : ProcessId)
    (sequence : UInt16) :
    (pack timestamp worker process sequence).fields =
      ⟨timestamp % 2 ^ 42, worker, process, sequence % 4096⟩ := by
  have htimestamp : (pack timestamp worker process sequence).timestamp = timestamp % 2 ^ 42 := by
    apply UInt64.toNat_inj.mp
    rw [toNat_timestamp_pack, UInt64.toNat_mod]
    rfl
  have hsequence : (pack timestamp worker process sequence).sequence = sequence % 4096 := by
    apply UInt16.toNat_inj.mp
    rw [toNat_sequence_pack, UInt16.toNat_mod]
    rfl
  rw [fields, htimestamp, hsequence, worker_pack, process_pack]

example : pack 0x40000000000 .zero .zero 4096 = ⟨0⟩ := by
  decide

end Flake

namespace Fields

theorem fields_pack_of_fit {p : Fields} (h : p.Fit) : p.pack.fields = p := by
  rw [pack, Flake.fields, Flake.timestamp_pack _ _ _ h.1, Flake.sequence_pack _ _ _ h.2,
    Flake.worker_pack, Flake.process_pack]

theorem bijOn_pack : Set.BijOn (fun p : Fields => p.pack.word) {p | p.Fit} Set.univ := by
  refine ⟨Set.mapsTo_univ _ _, ?_, ?_⟩
  · intro p hp q hq hword
    have hpack : p.pack = q.pack := Flake.toNat_inj.mp (congrArg UInt64.toNat hword)
    rw [← fields_pack_of_fit hp, hpack, fields_pack_of_fit hq]
  · intro raw _
    exact ⟨Flake.fields ⟨raw⟩, Flake.fit_fields _, congrArg Flake.word (Flake.pack_fields ⟨raw⟩)⟩

end Fields

theorem Flake.packing_bijective (raw timestamp : UInt64) (worker : WorkerId)
    (process : ProcessId) (sequence : UInt16) :
    let f : Flake := ⟨raw⟩
    f.fields.pack.word = raw ∧
      (pack f.timestamp f.worker f.process f.sequence).word = raw ∧
      f.timestamp ≤ maxTimestamp ∧ f.worker.toNat ≤ SlotId.max.toNat ∧
      f.process.toNat ≤ SlotId.max.toNat ∧ f.sequence ≤ maxSequence ∧
      (pack timestamp worker process sequence).fields =
        ⟨timestamp % 2 ^ 42, worker, process, sequence % 4096⟩ ∧
      Set.BijOn (fun p : Fields => p.pack.word) {p | p.Fit} Set.univ := by
  intro f
  have hraw : f.fields.pack.word = raw := congrArg word f.pack_fields
  exact ⟨hraw, hraw, f.timestamp_le_maxTimestamp, Nat.le_of_lt_succ f.worker.toNat_lt,
    Nat.le_of_lt_succ f.process.toNat_lt, f.sequence_le_maxSequence,
    fields_pack timestamp worker process sequence, Fields.bijOn_pack⟩

end Snowflake
