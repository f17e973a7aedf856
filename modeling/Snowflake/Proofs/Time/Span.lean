import Mathlib
import Snowflake.Time.Span

/-!
Spans in whole milliseconds: cut off, in a word, and counted up.
-/

namespace Snowflake.Span

theorem nanos_inj {s t : Span} : s.nanos = t.nanos ↔ s = t := by
  constructor
  · intro h
    cases s
    cases h
    rfl
  · rintro rfl
    rfl

theorem le_toNat_millisWord_iff (s : Span) {n : Nat} (hn : n < 2 ^ 64) :
    n ≤ s.millisWord.toNat ↔ n ≤ s.millis := by
  rw [millisWord]
  split
  · rename_i hmillis
    rw [UInt64.toNat_ofNat_of_lt' hmillis]
  · rename_i hmillis
    have hmax : (0xFFFFFFFFFFFFFFFF : UInt64).toNat = 2 ^ 64 - 1 := by decide
    omega

theorem toNat_millisWord_le (s : Span) : s.millisWord.toNat ≤ s.millis :=
  (s.le_toNat_millisWord_iff s.millisWord.toNat_lt).mp (Nat.le_refl _)

theorem toNat_millisWord (s : Span) : s.millisWord.toNat = min s.millis (2 ^ 64 - 1) := by
  have hword := s.millisWord.toNat_lt
  have hle := s.toNat_millisWord_le
  have hcap := (s.le_toNat_millisWord_iff (n := min s.millis (2 ^ 64 - 1)) (by omega)).mpr
    (Nat.min_le_left _ _)
  omega

/-- The milliseconds of a span, with one more for a part of a millisecond. -/
def ceilMillis (s : Span) : Nat :=
  (s.nanos + 999999) / 1000000

/-- A span of so many milliseconds, or the longest one where none is as long. -/
def ofMillisCapped (millis : Nat) : Span :=
  if h : millis * 1000000 < 0x10000000000000000 * 1000000000 then ⟨millis * 1000000, h⟩
  else ⟨0x10000000000000000 * 1000000000 - 1, by omega⟩

theorem le_ofMillisCapped_iff (s : Span) (millis : Nat) :
    s ≤ ofMillisCapped millis ↔ s.ceilMillis ≤ millis := by
  have hnanos := s.nanos_lt
  rw [le_def, ofMillisCapped, ceilMillis]
  split
  · change s.nanos ≤ millis * 1000000 ↔ _
    omega
  · change s.nanos ≤ 0x10000000000000000 * 1000000000 - 1 ↔ _
    omega

/-- The span and so many milliseconds more, or the longest span where that is longer than any. -/
def addMillisCapped (s : Span) (millis : Nat) : Span :=
  if h : s.nanos + millis * 1000000 < 0x10000000000000000 * 1000000000 then ⟨_, h⟩
  else ⟨0x10000000000000000 * 1000000000 - 1, by omega⟩

theorem nanos_addMillisCapped (s : Span) (millis : Nat) :
    (s.addMillisCapped millis).nanos =
      min (s.nanos + millis * 1000000) (0x10000000000000000 * 1000000000 - 1) := by
  rw [addMillisCapped]
  split
  · rename_i h
    exact (min_eq_left (Nat.le_sub_one_of_lt h)).symm
  · rename_i h
    exact (min_eq_right ((Nat.sub_le _ _).trans (Nat.not_lt.mp h))).symm

theorem nanos_ofMillisCapped (millis : Nat) :
    (ofMillisCapped millis).nanos =
      min (millis * 1000000) (0x10000000000000000 * 1000000000 - 1) := by
  rw [ofMillisCapped]
  split
  · rename_i h
    exact (min_eq_left (Nat.le_sub_one_of_lt h)).symm
  · rename_i h
    exact (min_eq_right ((Nat.sub_le _ _).trans (Nat.not_lt.mp h))).symm

theorem addMillisCapped_mono {s t : Span} (h : s ≤ t) (millis : Nat) :
    s.addMillisCapped millis ≤ t.addMillisCapped millis := by
  rw [le_def, nanos_addMillisCapped, nanos_addMillisCapped]
  exact min_le_min_right _ (Nat.add_le_add_right h _)

theorem addMillisCapped_ofMillisCapped (a b : Nat) :
    (ofMillisCapped a).addMillisCapped b = ofMillisCapped (a + b) := by
  have hcapped (unit longest : Nat) :
      min (min (a * unit) longest + b * unit) longest = min ((a + b) * unit) longest := by
    rw [Nat.add_mul, ← min_add_add_right, min_assoc, min_eq_right (Nat.le_add_right _ _)]
  apply nanos_inj.mp
  rw [nanos_addMillisCapped, nanos_ofMillisCapped, nanos_ofMillisCapped, hcapped]

end Snowflake.Span
