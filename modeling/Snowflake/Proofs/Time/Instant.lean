import Mathlib
import Snowflake.Time.Instant

/-!
Instants are in a linear order. Outside leap seconds they are numbers of nanoseconds: their order is
that of the numbers, and a delay is added exactly, unless the sum is past the last instant.
-/

namespace Snowflake

theorem Delay.ofSeconds?_eq_some_iff {seconds : UInt64} {d : Delay} :
    ofSeconds? seconds = some d ↔ d.seconds = seconds.toNat := by
  constructor
  · intro h
    rw [ofSeconds?] at h
    split at h
    · cases h
      rfl
    · cases h
  · intro h
    obtain ⟨s, hs⟩ := d
    subst h
    rw [ofSeconds?, dif_pos hs]

theorem Delay.ofSeconds?_eq_none_iff {seconds : UInt64} :
    ofSeconds? seconds = none ↔ 9223372036854775 < seconds.toNat := by
  rw [ofSeconds?]
  split
  · rename_i hle
    simpa using hle
  · rename_i hlt
    simpa using hlt

namespace Instant

instance : LinearOrder Instant where
  le a b := ¬ b < a
  lt a b := a < b
  le_refl a := by
    rw [lt_def]
    omega
  le_trans a b c hab hbc := by
    rw [lt_def] at *
    omega
  le_antisymm a b hab hba := by
    rw [lt_def] at hab hba
    have hsecond : a.second = b.second := by omega
    have hnanos : a.nanos = b.nanos := by omega
    cases a
    cases hsecond
    cases hnanos
    rfl
  le_total a b := by
    rw [lt_def, lt_def]
    omega
  lt_iff_le_not_ge a b := by
    rw [lt_def, lt_def]
    omega
  toDecidableLE a b := inferInstanceAs (Decidable ¬ b < a)

/-- The last instant outside a leap second. -/
def last : Instant :=
  ⟨8210266876799, 999999999, by omega, by omega, by omega⟩

/-- One second before `last`. -/
def beforeLast : Instant :=
  ⟨8210266876798, 999999999, by omega, by omega, by omega⟩

/-- The first nanosecond of the first instant. -/
def startNanos : Int :=
  -8334601228800 * 1000000000

/-- The first nanosecond past `last`. -/
def endNanos : Int :=
  8210266876800 * 1000000000

theorem unixNanos_lt_endNanos {i : Instant} (hi : i.IsRegular) : i.unixNanos < endNanos := by
  have hsecond := i.second_le
  simp only [IsRegular, unixNanos, endNanos] at *
  omega

theorem lt_iff_unixNanos_lt {a b : Instant} (ha : a.IsRegular) (hb : b.IsRegular) :
    a < b ↔ a.unixNanos < b.unixNanos := by
  simp only [IsRegular] at ha hb
  simp only [lt_def, unixNanos]
  omega

theorem unixNanos_inj {a b : Instant} (ha : a.IsRegular) (hb : b.IsRegular) :
    a.unixNanos = b.unixNanos ↔ a = b := by
  constructor
  · intro h
    obtain ⟨second, nanos⟩ := a
    obtain ⟨second', nanos'⟩ := b
    simp only [IsRegular] at ha hb
    simp only [unixNanos] at h
    obtain rfl : second = second' := by omega
    obtain rfl : nanos = nanos' := by omega
    rfl
  · rintro rfl
    rfl

theorem ofUnix?_eq_some_iff {second : Int} {nanos : Nat} {i : Instant} :
    ofUnix? second nanos = some i ↔ i.second = second ∧ i.nanos = nanos := by
  constructor
  · intro h
    rw [ofUnix?] at h
    split at h
    · cases h
      exact ⟨rfl, rfl⟩
    · cases h
  · rintro ⟨rfl, rfl⟩
    rw [ofUnix?, dif_pos ⟨⟨i.second_ge, i.second_le⟩, i.nanos_lt⟩]

theorem startNanos_le_unixNanos (i : Instant) : startNanos ≤ i.unixNanos := by
  have hsecond := i.second_ge
  simp only [unixNanos, startNanos]
  omega

theorem exists_unixNanos_eq_of_mem {n : Int} (hstart : startNanos ≤ n) (hend : n < endNanos) :
    ∃ i : Instant, i.IsRegular ∧ i.unixNanos = n := by
  simp only [startNanos, endNanos] at hstart hend
  refine ⟨⟨n / 1000000000, (n % 1000000000).toNat, by omega, by omega, by omega⟩, ?_, ?_⟩
  · simp only [IsRegular]
    omega
  · simp only [unixNanos]
    omega

theorem exists_unixNanos_eq (start : Instant) {n : Int} (hstart : start.unixNanos ≤ n)
    (hend : n < endNanos) : ∃ i : Instant, i.IsRegular ∧ i.unixNanos = n :=
  exists_unixNanos_eq_of_mem (start.startNanos_le_unixNanos.trans hstart) hend

theorem ofUnixMillis?_eq_some_iff {millis : Int} {i : Instant} :
    ofUnixMillis? millis = some i ↔ i.IsRegular ∧ i.unixNanos = millis * 1000000 := by
  rw [ofUnixMillis?, ofUnix?_eq_some_iff]
  simp only [IsRegular, unixNanos]
  omega

theorem add?_eq_some_iff {i e : Instant} {d : Delay} (hi : i.IsRegular) :
    i.add? d = some e ↔ e.IsRegular ∧ e.unixNanos = i.unixNanos + d.seconds * 1000000000 := by
  rw [add?]
  split
  · rename_i hzero
    rw [Option.some_inj, hzero]
    constructor
    · rintro rfl
      exact ⟨hi, by omega⟩
    · rintro ⟨he, hnanos⟩
      exact (unixNanos_inj hi he).mp (by omega)
  · rw [ofUnix?_eq_some_iff]
    simp only [IsRegular, unixNanos] at *
    omega

end Instant

end Snowflake
