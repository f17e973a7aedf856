import Snowflake.Proofs.Time.Clock

/-!
The instants at which flakes were made. They are those that the timestamps say, to the millisecond,
as far as there are instants at all; no sum wraps before that.
-/

namespace Snowflake.Flake

variable {epoch : Span} {f a b : Flake}

theorem createdAt?_eq_none_iff :
    f.createdAt? epoch = none ↔
      Instant.last.unixNanos < (epoch.millis + f.timestamp.toNat : Nat) * 1000000 := by
  have hlast : Instant.last.unixNanos + 1 = Instant.endNanos := rfl
  rw [Option.eq_none_iff_forall_ne_some, ← not_exists, exists_createdAt?_iff]
  omega

theorem timestamp_le_of_word_le (h : a.word ≤ b.word) : a.timestamp.toNat ≤ b.timestamp.toNat := by
  rw [UInt64.le_iff_toNat_le] at h
  rw [toNat_timestamp, toNat_timestamp]
  exact Nat.div_le_div_right h

theorem exists_createdAt?_le_of_word_le {later : Instant} (hword : a.word ≤ b.word)
    (hlater : b.createdAt? epoch = some later) :
    ∃ earlier, a.createdAt? epoch = some earlier ∧ earlier ≤ later := by
  have htimestamp := timestamp_le_of_word_le hword
  have hend := exists_createdAt?_iff.mp ⟨later, hlater⟩
  obtain ⟨earlier, hearlier⟩ : ∃ earlier, a.createdAt? epoch = some earlier :=
    exists_createdAt?_iff.mpr (by omega)
  refine ⟨earlier, hearlier, ?_⟩
  obtain ⟨hregular, hnanos⟩ := createdAt?_eq_some_iff.mp hlater
  obtain ⟨hregular', hnanos'⟩ := createdAt?_eq_some_iff.mp hearlier
  rw [← not_lt, Instant.lt_iff_unixNanos_lt hregular hregular']
  omega

theorem millis_lt (epoch : Span) (f : Flake) : epoch.millis + f.timestamp.toNat < 2 ^ 128 := by
  have hnanos := epoch.nanos_lt
  have htimestamp := f.timestamp.toNat_lt
  rw [Span.millis]
  omega

/-- No flake is too late for an epoch that leaves room for all timestamps. -/
theorem isSome_createdAt?_of_le (f : Flake) (h : epoch.millis + 2 ^ 42 ≤ 8210266876800000) :
    (f.createdAt? epoch).isSome := by
  have htimestamp := f.timestamp_le_maxTimestamp
  rw [UInt64.le_iff_toNat_le, toNat_maxTimestamp] at htimestamp
  rw [Option.isSome_iff_exists, exists_createdAt?_iff, Instant.endNanos]
  omega

/-- A flake was made at the very millisecond to which its timestamp and the whole milliseconds of
the epoch add up, a sum that fits 128 bits, and at none exactly if that is past the last instant. Of
two flakes with one epoch the lesser was made, and not later, if the greater one was. With the
epochs in use every flake was made. -/
theorem createdAt?_exact (epoch : Span) :
    (∀ f : Flake,
      let millis := epoch.nanos / 1000000 + f.timestamp.toNat
      millis < 2 ^ 128 ∧
      (∀ c, f.createdAt? epoch = some c ↔ c.IsRegular ∧ c.unixNanos = (millis : Int) * 1000000) ∧
      (f.createdAt? epoch = none ↔ Instant.last.unixNanos < (millis : Int) * 1000000)) ∧
    (∀ a b : Flake, a.word ≤ b.word → ∀ later, b.createdAt? epoch = some later →
      ∃ earlier, a.createdAt? epoch = some earlier ∧ earlier ≤ later) ∧
    ∀ used ∈ [Epoch.year2025, Epoch.twitter, Epoch.discord], ∀ f : Flake,
      (f.createdAt? used).isSome := by
  refine ⟨fun f => ⟨millis_lt epoch f, fun c => createdAt?_eq_some_iff, createdAt?_eq_none_iff⟩,
    fun a b hword later => exists_createdAt?_le_of_word_le hword, ?_⟩
  intro used hused f
  fin_cases hused <;> exact f.isSome_createdAt?_of_le (by decide)

/-- An epoch that leaves room for two timestamps, and the longest one. -/
theorem createdAt?_exact_last_millisecond :
    let epoch : Span := ⟨8210266876799998999999, by decide⟩
    let longest : Span := ⟨0x10000000000000000 * 1000000000 - 1, by decide⟩
    let flake (timestamp : UInt64) : Flake := .pack timestamp .zero .zero 4095
    let first : Instant := ⟨8210266876799, 998000000, by decide, by decide, by decide⟩
    let final : Instant := ⟨8210266876799, 999000000, by decide, by decide, by decide⟩
    (flake 0).word ≤ (flake 1).word ∧ (flake 1).createdAt? epoch = some final ∧
      (∃ earlier, (flake 0).createdAt? epoch = some earlier ∧ earlier ≤ final) ∧
      (flake 0).createdAt? epoch = some first ∧ (flake 2).createdAt? epoch = none ∧
      (flake 0).createdAt? longest = none ∧
      ((flake 0x3FFFFFFFFFF).createdAt? Epoch.discord).isSome := by
  intro epoch longest flake first final
  obtain ⟨hnear, hmono, hused⟩ := createdAt?_exact epoch
  obtain ⟨hfar, -, -⟩ := createdAt?_exact longest
  have hword : (flake 0).word ≤ (flake 1).word := by decide
  have hfinal : (flake 1).createdAt? epoch = some final :=
    ((hnear (flake 1)).2.1 final).mpr ⟨by decide, by decide⟩
  exact ⟨hword, hfinal, hmono _ _ hword final hfinal,
    ((hnear (flake 0)).2.1 first).mpr ⟨by decide, by decide⟩, (hnear (flake 2)).2.2.mpr (by decide),
    (hfar (flake 0)).2.2.mpr (by decide), hused _ (by decide) _⟩

end Snowflake.Flake
