import Snowflake.Proofs.Flake.Order

/-!
Identifiers in a signed column. The column loses nothing, but its order is that of the identifiers
only on either side of the middle of the timestamps: the later half is negative there and comes
first.
-/

namespace Snowflake

namespace Flake

/-- The timestamp lies in the later half of its range. -/
def Late (f : Flake) : Prop :=
  2 ^ 41 ≤ f.timestamp.toNat

instance : DecidablePred Late := fun f => inferInstanceAs (Decidable (2 ^ 41 ≤ f.timestamp.toNat))

variable {a b f : Flake}

/-- The top bit of the timestamp is the bit that becomes the sign. -/
theorem msb_word_iff : f.word.toBitVec.msb ↔ f.Late := by
  rw [BitVec.msb_eq_true_iff_two_mul_ge, Late, toNat_timestamp]
  change 2 ^ 64 ≤ 2 * f.toNat ↔ 2 ^ 41 ≤ f.toNat / 2 ^ 22
  omega

theorem ofInt64_toInt64 (f : Flake) : ofInt64 f.toInt64 = f := by
  rw [ofInt64, toInt64, UInt64.toUInt64_toInt64]

theorem toInt64_ofInt64 (i : Int64) : (ofInt64 i).toInt64 = i := by
  rw [ofInt64, toInt64, Int64.toInt64_toUInt64]

theorem toInt_toInt64 (f : Flake) :
    f.toInt64.toInt = if f.Late then (f.toNat : Int) - (2 ^ 64 : Nat) else f.toNat := by
  rw [← Int64.toInt_toBitVec, toInt64, UInt64.toBitVec_toInt64, BitVec.toInt_eq_msb_cond]
  simp only [msb_word_iff]
  rfl

theorem toInt64_neg_iff : f.toInt64 < 0 ↔ f.Late := by
  have hword : f.toNat < 2 ^ 64 := f.word.toNat_lt
  rw [Int64.lt_iff_toInt_lt, toInt_toInt64, Int64.toInt_zero]
  by_cases hlate : f.Late
  · rw [if_pos hlate, iff_true_right hlate]
    omega
  · rw [if_neg hlate, iff_false_right hlate]
    omega

/-- The column counts the side before the number, the later side as the lesser one. -/
theorem toInt64_lt_iff :
    a.toInt64 < b.toInt64 ↔
      (a.Late ∧ ¬ b.Late) ∨ ((a.Late ↔ b.Late) ∧ a.toNat < b.toNat) := by
  have ha : a.toNat < 2 ^ 64 := a.word.toNat_lt
  have hb : b.toNat < 2 ^ 64 := b.word.toNat_lt
  rw [Int64.lt_iff_toInt_lt, toInt_toInt64, toInt_toInt64]
  -- On one side both numbers are shifted alike; otherwise the signs decide.
  by_cases hside : a.Late ↔ b.Late
  · simp only [hside]
    split <;> simp
  · grind

theorem late_of_le (h : a.toNat ≤ b.toNat) (ha : a.Late) : b.Late := by
  rw [Late, toNat_timestamp] at ha ⊢
  omega

/-- Of two flakes in order the column swaps those that the middle parts. -/
theorem toInt64_lt_iff_of_lt (h : a.toNat < b.toNat) :
    a.toInt64 < b.toInt64 ↔ ¬ (¬ a.Late ∧ b.Late) := by
  have hlate := late_of_le h.le
  rw [toInt64_lt_iff]
  tauto

end Flake

namespace Id

variable {k : Kind} {a b : Id k}

theorem compare_eq_lt_iff : compare a b = .lt ↔ a.flake.toNat < b.flake.toNat :=
  Nat.compare_eq_lt

theorem ofInt64_toInt64 (id : Id k) : ofInt64 id.toInt64 = id :=
  congrArg Id.mk id.flake.ofInt64_toInt64

theorem toInt64_ofInt64 (i : Int64) : (ofInt64 i : Id k).toInt64 = i :=
  Flake.toInt64_ofInt64 i

/-- No timestamp or every timestamp is in the later half. -/
def OneSided (ids : Set (Id k)) : Prop :=
  (∀ id ∈ ids, ¬ id.flake.Late) ∨ ∀ id ∈ ids, id.flake.Late

theorem oneSided_iff {ids : Set (Id k)} :
    OneSided ids ↔ ∀ a ∈ ids, ∀ b ∈ ids, a.flake.Late → b.flake.Late := by
  constructor
  · rintro (hearly | hlate) a ha b hb h
    · exact absurd h (hearly a ha)
    · exact hlate b hb
  · intro h
    rw [OneSided, or_iff_not_imp_left]
    intro hlate
    push Not at hlate
    obtain ⟨a, ha, hlate⟩ := hlate
    exact fun b hb => h a ha b hb hlate

theorem oneSided_iff_lt {ids : Set (Id k)} :
    OneSided ids ↔ ∀ a ∈ ids, ∀ b ∈ ids, a.toInt64 < b.toInt64 ↔ compare a b = .lt := by
  rw [oneSided_iff]
  constructor
  · intro h a ha b hb
    have hside := h a ha b hb
    have hside' := h b hb a ha
    rw [compare_eq_lt_iff, toInt64, toInt64, Flake.toInt64_lt_iff]
    tauto
  · intro h a ha b hb hlate
    by_contra hearly
    have hlt : a.toInt64 < b.toInt64 := Flake.toInt64_lt_iff.mpr (.inl ⟨hlate, hearly⟩)
    exact hearly (Flake.late_of_le (compare_eq_lt_iff.mp ((h a ha b hb).mp hlt)).le hlate)

theorem toInt64_le_iff_of_oneSided {ids : Set (Id k)} (h : OneSided ids) (ha : a ∈ ids)
    (hb : b ∈ ids) : a.toInt64 ≤ b.toInt64 ↔ a.flake.toNat ≤ b.flake.toNat := by
  rw [← Int64.not_lt, oneSided_iff_lt.mp h b hb a ha, compare_eq_lt_iff, not_lt]

/-- What a query that sorts by the column may return for these identifiers. -/
def SortedByColumn (ids stored : List (Id k)) : Prop :=
  stored.Perm ids ∧ stored.Pairwise fun a b => a.toInt64 ≤ b.toInt64

section Stored

variable {ids stored stored' : List (Id k)}

theorem pairwise_toNat_ascending (ids : List (Id k)) :
    (ascending ids).Pairwise fun a b => a.flake.toNat ≤ b.flake.toNat := by
  have hkey (a b : Id k) : (compare a b).isLE ↔ a.flake.toNat ≤ b.flake.toNat := Nat.isLE_compare
  exact pairwise_ascending hkey ids

theorem toInt64_antisymm (h : a.toInt64 ≤ b.toInt64) (h' : b.toInt64 ≤ a.toInt64) : a = b := by
  rw [← ofInt64_toInt64 a, ← ofInt64_toInt64 b, Int64.le_antisymm h h']

/-- No two identifiers are the same in the column, so that nothing is left to the query. -/
theorem SortedByColumn.unique (h : SortedByColumn ids stored) (h' : SortedByColumn ids stored') :
    stored = stored' :=
  List.Perm.eq_of_pairwise (fun _ _ _ _ => toInt64_antisymm) h.2 h'.2 (h.1.trans h'.1.symm)

theorem sortedByColumn_ascending (h : OneSided {id | id ∈ ids}) :
    SortedByColumn ids (ascending ids) := by
  refine ⟨perm_ascending ids, (pairwise_toNat_ascending ids).imp_of_mem fun ha hb hle => ?_⟩
  exact (toInt64_le_iff_of_oneSided h (mem_ascending.mp ha) (mem_ascending.mp hb)).mpr hle

/-- The later side comes first, and either side is in the order of the identifiers. -/
theorem sortedByColumn_append (ids : List (Id k)) :
    SortedByColumn ids
      (ascending (ids.filter (·.flake.Late)) ++ ascending (ids.filter (¬ ·.flake.Late))) := by
  have hlate : ∀ id ∈ ids.filter (·.flake.Late), id.flake.Late :=
    fun _ h => of_decide_eq_true (List.mem_filter.mp h).2
  have hearly : ∀ id ∈ ids.filter (¬ ·.flake.Late), ¬ id.flake.Late :=
    fun _ h => of_decide_eq_true (List.mem_filter.mp h).2
  obtain ⟨hperm, hsorted⟩ := sortedByColumn_ascending (.inr hlate)
  obtain ⟨hperm', hsorted'⟩ := sortedByColumn_ascending (.inl hearly)
  constructor
  · have hparts := List.filter_append_perm (fun id : Id k => decide id.flake.Late) ids
    simp only [← decide_not] at hparts
    exact (hperm.append hperm').trans hparts
  · refine List.pairwise_append.mpr ⟨hsorted, hsorted', fun a ha b hb => ?_⟩
    have hlt : a.toInt64 < b.toInt64 := Flake.toInt64_lt_iff.mpr
      (.inl ⟨hlate a (mem_ascending.mp ha), hearly b (mem_ascending.mp hb)⟩)
    exact Int64.le_of_lt hlt

theorem sortedByColumn_iff :
    SortedByColumn ids stored ↔
      stored = ascending (ids.filter (·.flake.Late)) ++
        ascending (ids.filter (¬ ·.flake.Late)) := by
  constructor
  · exact fun h => h.unique (sortedByColumn_append ids)
  · rintro rfl
    exact sortedByColumn_append ids

theorem oneSided_of_sortedByColumn (h : SortedByColumn ids (ascending ids)) :
    OneSided {id | id ∈ ids} := by
  have hsorted := pairwise_toNat_ascending ids
  rw [sortedByColumn_iff.mp h, List.pairwise_append] at hsorted
  rw [oneSided_iff]
  intro a ha b hb hlate
  by_contra hearly
  have hle : a.flake.toNat ≤ b.flake.toNat := by
    apply hsorted.2.2
    · exact mem_ascending.mpr (List.mem_filter.mpr ⟨ha, decide_eq_true hlate⟩)
    · exact mem_ascending.mpr (List.mem_filter.mpr ⟨hb, decide_eq_true hearly⟩)
  exact hearly (Flake.late_of_le hle hlate)

/-- Only identifiers on one side of the middle are returned as they would be sorted themselves. -/
theorem oneSided_iff_sortedByColumn :
    OneSided {id | id ∈ ids} ↔
      ∀ stored, SortedByColumn ids stored ↔ stored = ascending ids := by
  constructor
  · intro h stored
    constructor
    · exact fun hstored => hstored.unique (sortedByColumn_ascending h)
    · rintro rfl
      exact sortedByColumn_ascending h
  · exact fun h => oneSided_of_sortedByColumn ((h _).mpr rfl)

end Stored

/-- An identifier and the number in its column are each read back from the other. The column has
the order of the identifiers, except where of two the middle of the timestamps lies between them:
there the later is negative and comes first. A query that sorts by the column returns the later side
before the earlier, each in the order of the identifiers, and so the identifiers in their own order
exactly if they lie on one side. -/
theorem column_keeps_value_and_order_of_sides (k : Kind) :
    (∀ raw : UInt64, ofInt64 (toInt64 (⟨⟨raw⟩⟩ : Id k)) = (⟨⟨raw⟩⟩ : Id k)) ∧
    (∀ i : Int64, (ofInt64 i : Id k).toInt64 = i) ∧
    (∀ a b : Id k, compare a b = .lt →
      (a.toInt64 < b.toInt64 ↔
        ¬ (a.flake.timestamp.toNat < 2 ^ 41 ∧ 2 ^ 41 ≤ b.flake.timestamp.toNat)) ∧
      (a.flake.timestamp.toNat < 2 ^ 41 → 2 ^ 41 ≤ b.flake.timestamp.toNat →
        b.toInt64 < 0 ∧ b.toInt64 < a.toInt64)) ∧
    (∀ ids : Set (Id k), OneSided ids ↔
      ∀ a ∈ ids, ∀ b ∈ ids, a.toInt64 < b.toInt64 ↔ compare a b = .lt) ∧
    ∀ ids : List (Id k),
      (∀ stored, SortedByColumn ids stored ↔
        stored = ascending (ids.filter (·.flake.Late)) ++
          ascending (ids.filter (¬ ·.flake.Late))) ∧
      (OneSided {id | id ∈ ids} ↔
        ∀ stored, SortedByColumn ids stored ↔ stored = ascending ids) := by
  refine ⟨fun raw => ofInt64_toInt64 ⟨⟨raw⟩⟩, toInt64_ofInt64, fun a b hlt => ⟨?_, ?_⟩,
    fun ids => oneSided_iff_lt,
    fun ids => ⟨fun stored => sortedByColumn_iff, oneSided_iff_sortedByColumn⟩⟩
  · rw [← not_le]
    exact Flake.toInt64_lt_iff_of_lt (compare_eq_lt_iff.mp hlt)
  · intro hearly hlate
    exact ⟨Flake.toInt64_neg_iff.mpr hlate, Flake.toInt64_lt_iff.mpr (.inl ⟨hlate, hearly.not_ge⟩)⟩

/-- The identifiers next to the middle, and the greatest one. -/
theorem column_keeps_value_and_order_of_sides_next_to_the_middle :
    let before : PostId := ⟨⟨0x7FFFFFFFFFFFFFFF⟩⟩
    let after : PostId := ⟨⟨0x8000000000000000⟩⟩
    let greatest : PostId := ⟨⟨0xFFFFFFFFFFFFFFFF⟩⟩
    (compare before after = .lt ∧ before.flake.timestamp.toNat < 2 ^ 41 ∧
        2 ^ 41 ≤ after.flake.timestamp.toNat) ∧
      (after.toInt64 < 0 ∧ after.toInt64 < before.toInt64 ∧ ¬ before.toInt64 < after.toInt64) ∧
      (compare after greatest = .lt ∧ after.toInt64 < greatest.toInt64) ∧
      SortedByColumn [before, greatest, after] (ascending [greatest, after] ++ ascending [before]) ∧
      SortedByColumn [greatest, after] (ascending [greatest, after]) := by
  intro before after greatest
  obtain ⟨-, -, horder, -, hsorted⟩ := column_keeps_value_and_order_of_sides .post
  have hlt : compare before after = .lt := by decide
  have hlt' : compare after greatest = .lt := by decide
  have hearly : before.flake.timestamp.toNat < 2 ^ 41 := by decide
  have hlate : 2 ^ 41 ≤ after.flake.timestamp.toNat := by decide
  have hside : ∀ id ∈ [greatest, after], id.flake.Late := by decide
  have hparts : [before, greatest, after].filter (·.flake.Late) = [greatest, after] ∧
      [before, greatest, after].filter (¬ ·.flake.Late) = [before] := by decide
  obtain ⟨hiff, hswapped⟩ := horder before after hlt
  obtain ⟨hneg, hfirst⟩ := hswapped hearly hlate
  exact ⟨⟨hlt, hearly, hlate⟩, ⟨hneg, hfirst, fun h => hiff.mp h ⟨hearly, hlate⟩⟩,
    ⟨hlt', (horder after greatest hlt').1.mpr (by decide)⟩,
    ((hsorted _).1 _).mpr (by rw [hparts.1, hparts.2]), ((hsorted _).2.mp (.inr hside) _).mpr rfl⟩

end Id

end Snowflake
