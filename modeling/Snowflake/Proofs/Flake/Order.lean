import Snowflake.Id
import Snowflake.Proofs.Flake.Packing

/-!
Flakes compare as their fields do from the timestamp down to the sequence, so that sorting flakes,
or identifiers of one kind, sorts them by the time at which they were made.
-/

namespace Snowflake

/-- Fields in the order in which they count. -/
def Fields.key (p : Fields) : ℕ ×ₗ ℕ ×ₗ ℕ ×ₗ ℕ :=
  toLex (p.timestamp.toNat, toLex (p.worker.toNat, toLex (p.process.toNat, p.sequence.toNat)))

/-- The list in the order of the comparison of its elements. -/
def ascending {α : Type} [Ord α] (l : List α) : List α :=
  l.mergeSort fun a b => (compare a b).isLE

theorem perm_ascending {α : Type} [Ord α] (l : List α) : (ascending l).Perm l :=
  l.mergeSort_perm _

theorem mem_ascending {α : Type} [Ord α] {a : α} {l : List α} : a ∈ ascending l ↔ a ∈ l :=
  (perm_ascending l).mem_iff

theorem pairwise_ascending {α β : Type} [Ord α] [LinearOrder β] {key : α → β}
    (hkey : ∀ a b : α, (compare a b).isLE ↔ key a ≤ key b) (l : List α) :
    (ascending l).Pairwise fun a b => key a ≤ key b := by
  have htrans (a b c : α) : (compare a b).isLE → (compare b c).isLE → (compare a c).isLE := by
    simp only [hkey]
    exact le_trans
  have htotal (a b : α) : (compare a b).isLE || (compare b a).isLE := by
    simp only [Bool.or_eq_true, hkey]
    exact le_total _ _
  exact (List.pairwise_mergeSort htrans htotal l).imp fun h => (hkey _ _).mp h

namespace Flake

theorem toNat_lt_iff_key_lt (a b : Flake) : a.toNat < b.toNat ↔ a.fields.key < b.fields.key := by
  simp only [Fields.key, fields, Prod.Lex.toLex_lt_toLex, toNat_timestamp, toNat_worker,
    toNat_process, toNat_sequence]
  omega

theorem compare_eq_lt_iff (a b : Flake) : compare a b = .lt ↔ a.fields.key < b.fields.key :=
  Nat.compare_eq_lt.trans (toNat_lt_iff_key_lt a b)

theorem isLE_compare_iff (a b : Flake) : (compare a b).isLE ↔ a.fields.key ≤ b.fields.key := by
  rw [← not_lt, ← toNat_lt_iff_key_lt, not_lt]
  exact Nat.isLE_compare

theorem timestamp_le_of_key_le {a b : Flake} (h : a.fields.key ≤ b.fields.key) :
    a.timestamp ≤ b.timestamp := by
  rw [Fields.key, Fields.key, Prod.Lex.toLex_le_toLex] at h
  rw [UInt64.le_iff_toNat_le]
  rcases h with h | ⟨h, -⟩
  · exact h.le
  · exact h.le

end Flake

theorem Flake.order_of_fields (a b : Flake) (p q : Fields) (flakes : List Flake) {k : Kind}
    (ids : List (Id k)) :
    (a.word < b.word ↔ a.fields.key < b.fields.key) ∧
      (compare a b = .lt ↔ a.fields.key < b.fields.key) ∧
      (p.Fit → q.Fit → (p.pack.word < q.pack.word ↔ p.key < q.key)) ∧
      (ascending flakes).Perm flakes ∧
      ((ascending flakes).Pairwise fun a b =>
        a.timestamp ≤ b.timestamp ∧ a.fields.key ≤ b.fields.key) ∧
      (ascending ids).Perm ids ∧
      (ascending ids).Pairwise fun a b =>
        a.flake.timestamp ≤ b.flake.timestamp ∧ a.flake.fields.key ≤ b.flake.fields.key := by
  have hword (a b : Flake) : a.word < b.word ↔ a.fields.key < b.fields.key :=
    UInt64.lt_iff_toNat_lt.trans (toNat_lt_iff_key_lt a b)
  refine ⟨hword a b, compare_eq_lt_iff a b, ?_, perm_ascending flakes, ?_, perm_ascending ids, ?_⟩
  · intro hp hq
    rw [hword, Fields.fields_pack_of_fit hp, Fields.fields_pack_of_fit hq]
  · have hsorted := pairwise_ascending isLE_compare_iff flakes
    exact hsorted.imp fun h => ⟨timestamp_le_of_key_le h, h⟩
  · have hsorted := pairwise_ascending (fun a b : Id k => isLE_compare_iff a.flake b.flake) ids
    exact hsorted.imp fun h => ⟨timestamp_le_of_key_le h, h⟩

end Snowflake
