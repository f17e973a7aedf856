import Snowflake.Proofs.Generator.Exact
import Snowflake.Proofs.Time.Instant
import Snowflake.Time.Clock

/-!
Clocks and the flakes made on their readings. A clock cuts the time since its epoch to whole
milliseconds, and the time decoded from a flake starts from the epoch cut to whole milliseconds:
together they are less than two milliseconds behind the wall clock, and never ahead of it.
-/

namespace Snowflake

theorem Flake.createdAt?_eq_some_iff {epoch : Span} {f : Flake} {c : Instant} :
    f.createdAt? epoch = some c ↔
      c.IsRegular ∧ c.unixNanos = (epoch.millis + f.timestamp.toNat : Nat) * 1000000 := by
  have hcreated : f.createdAt? epoch =
      if epoch.millis + f.timestamp.toNat < 0x8000000000000000 then
        Instant.ofUnixMillis? (epoch.millis + f.timestamp.toNat : Nat)
      else none := rfl
  rw [hcreated]
  split
  · exact Instant.ofUnixMillis?_eq_some_iff
  · -- So many milliseconds are past the last instant anyway.
    rename_i hlarge
    simp only [reduceCtorEq, false_iff]
    rintro ⟨hc, hnanos⟩
    have hend := Instant.unixNanos_lt_endNanos hc
    simp only [Instant.endNanos] at hend
    omega

theorem Flake.exists_createdAt?_iff {epoch : Span} {f : Flake} :
    (∃ c, f.createdAt? epoch = some c) ↔
      ((epoch.millis + f.timestamp.toNat : Nat) : Int) * 1000000 < Instant.endNanos := by
  simp only [createdAt?_eq_some_iff]
  constructor
  · rintro ⟨c, hc, hnanos⟩
    exact hnanos ▸ Instant.unixNanos_lt_endNanos hc
  · exact Instant.exists_unixNanos_eq_of_mem (by simp only [Instant.startNanos]; omega)

namespace Clock

theorem toNat_reading (epoch : Span) (now : Instant) :
    (reading epoch now).toNat = (now.unixNanos - epoch.nanos).toNat / 1000000 := by
  have hsecond := now.second_le
  have hnanos := now.nanos_lt
  apply UInt64.toNat_ofNat_of_lt'
  simp only [Instant.unixNanos, UInt64.size]
  omega

theorem reading_eq_zero_of_lt {epoch : Span} {now : Instant} (h : now.unixNanos < epoch.nanos) :
    reading epoch now = 0 := by
  apply UInt64.toNat_inj.mp
  rw [toNat_reading, Int.toNat_of_nonpos (by omega)]
  rfl

theorem reading_le_reading (epoch : Span) {a b : Instant} (ha : a.IsRegular) (hb : b.IsRegular)
    (hle : a ≤ b) : reading epoch a ≤ reading epoch b := by
  have hnanos : a.unixNanos ≤ b.unixNanos := by
    rw [← not_lt, Instant.lt_iff_unixNanos_lt hb ha] at hle
    omega
  rw [UInt64.le_iff_toNat_le, toNat_reading, toNat_reading]
  omega

theorem exists_createdAt?_eq_some {epoch : Span} {now : Instant} {f : Flake}
    (hepoch : epoch.nanos ≤ now.unixNanos) (hnow : now.IsRegular)
    (hf : f.timestamp = reading epoch now) :
    ∃ c, f.createdAt? epoch = some c ∧ c.IsRegular ∧
      c.unixNanos = (epoch.nanos / 1000000 + (now.unixNanos - epoch.nanos) / 1000000) * 1000000 := by
  have hend := Instant.unixNanos_lt_endNanos hnow
  have hmillis : ((epoch.millis + f.timestamp.toNat : Nat) : Int) =
      epoch.nanos / 1000000 + (now.unixNanos - epoch.nanos) / 1000000 := by
    rw [hf, toNat_reading, Span.millis]
    omega
  obtain ⟨c, hcreated⟩ : ∃ c, f.createdAt? epoch = some c :=
    Flake.exists_createdAt?_iff.mpr (by omega)
  obtain ⟨hc, hnanos⟩ := Flake.createdAt?_eq_some_iff.mp hcreated
  exact ⟨c, hcreated, hc, hmillis ▸ hnanos⟩

/-- A flake made on a reading of the clock tells the wall clock to less than two milliseconds, and
exactly to the millisecond if the epoch has no fraction of one. A wall clock keeps no leap seconds,
so that its instants are regular. Before the epoch the clock stands at zero, and it never goes back
when the wall clock does not. -/
theorem createdAt?_of_reading (epoch : Span) :
    (∀ (g : Generator) (now : Instant) (f : Flake), now.IsRegular →
        epoch.nanos ≤ now.unixNanos →
        Generator.flake? (g.poll (reading epoch now)).1 = some f →
        ∃ c, f.createdAt? epoch = some c ∧ c.IsRegular ∧ c ≤ now ∧
          now.unixNanos < c.unixNanos + 2000000 ∧
          (epoch.nanos % 1000000 = 0 → c.unixNanos = now.unixNanos / 1000000 * 1000000)) ∧
      (∀ now : Instant, now.unixNanos < epoch.nanos ∨ now.unixNanos < 0 →
        reading epoch now = 0) ∧
      ∀ earlier later : Instant, earlier.IsRegular → later.IsRegular → earlier ≤ later →
        reading epoch earlier ≤ reading epoch later := by
  refine ⟨?_, ?_, fun a b ha hb => reading_le_reading epoch ha hb⟩
  · intro g now f hnow hepoch hf
    obtain ⟨n, -, hfields⟩ := Generator.fields_of_poll hf
    have htimestamp : f.timestamp = reading epoch now := congrArg Fields.timestamp hfields
    obtain ⟨c, hcreated, hc, hnanos⟩ := exists_createdAt?_eq_some hepoch hnow htimestamp
    refine ⟨c, hcreated, hc, ?_, by omega, fun hwhole => by omega⟩
    rw [← not_lt, Instant.lt_iff_unixNanos_lt hnow hc]
    omega
  · intro now hbefore
    exact reading_eq_zero_of_lt (by omega)

/-- An epoch and a wall clock that lose as much as they can. -/
theorem createdAt?_of_reading_two_millis_late :
    let epoch : Span := ⟨1999999, by decide⟩
    let now : Instant := ⟨0, 3999998, by decide, by decide, by decide⟩
    let c : Instant := ⟨0, 2000000, by decide, by decide, by decide⟩
    let f := Flake.pack 1 .zero .zero 0
    Generator.flake? ((Generator.new .default).poll (reading epoch now)).1 = some f ∧
      f.createdAt? epoch = some c ∧ now.unixNanos = c.unixNanos + 1999998 := by
  intro epoch now c f
  have hready : Generator.flake? ((Generator.new .default).poll (reading epoch now)).1 = some f := by
    decide
  obtain ⟨hmade, -⟩ := createdAt?_of_reading epoch
  obtain ⟨c', hcreated, -⟩ := hmade (.new .default) now f (by decide) (by decide) hready
  have hc : f.createdAt? epoch = some c := by decide
  obtain rfl : c' = c := Option.some_inj.mp (hcreated.symm.trans hc)
  exact ⟨hready, hcreated, by decide⟩

end Clock

end Snowflake
