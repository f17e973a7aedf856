import Mathlib
import Snowflake.Flake

/-!
The fields of a flake in the arithmetic of natural numbers: packing is a sum of multiples of powers
of two (`toNat_pack`), and each field is read by a quotient and a remainder.
-/

namespace Snowflake.Flake

/-- Fields that lie in bits of their own are joined by `|||` as by addition. -/
theorem or_eq_add {high low : Nat} (n : Nat) (h : low < 2 ^ n) :
    high * 2 ^ n ||| low = high * 2 ^ n + low := by
  rw [← Nat.shiftLeft_eq, Nat.shiftLeft_add_eq_or_of_lt h]

theorem toNat_pack (timestamp : UInt64) (worker : WorkerId) (process : ProcessId)
    (sequence : UInt16) :
    (pack timestamp worker process sequence).toNat =
      timestamp.toNat % 2 ^ 42 * 2 ^ 22 + worker.toNat * 2 ^ 17 + process.toNat * 2 ^ 12 +
        sequence.toNat % 2 ^ 12 := by
  have hw := worker.toNat_lt
  have hp := process.toNat_lt
  have ht : timestamp.toNat &&& 0x3FFFFFFFFFF = timestamp.toNat % 2 ^ 42 :=
    Nat.and_two_pow_sub_one_eq_mod _ 42
  have hs : sequence.toNat &&& 0xFFF = sequence.toNat % 2 ^ 12 :=
    Nat.and_two_pow_sub_one_eq_mod _ 12
  have hw' : worker.toNat &&& 0x1F = worker.toNat % 2 ^ 5 :=
    Nat.and_two_pow_sub_one_eq_mod _ 5
  have hp' : process.toNat &&& 0x1F = process.toNat % 2 ^ 5 :=
    Nat.and_two_pow_sub_one_eq_mod _ 5
  have htb : timestamp.toNat % 2 ^ 42 < 2 ^ 42 := Nat.mod_lt _ (by decide)
  have hsb : sequence.toNat % 2 ^ 12 < 2 ^ 12 := Nat.mod_lt _ (by decide)
  simp only [toNat, pack, timestampMask, slotMask, sequenceMask, timestampShift, workerShift,
    processShift, sequenceShift, UInt64.toNat_or, UInt64.toNat_shiftLeft, UInt64.toNat_and,
    SlotId.toNat_toWord, UInt16.toNat_toUInt64, UInt64.reduceToNat, Nat.reduceMod, ht, hs, hw', hp',
    Nat.shiftLeft_eq]
  generalize timestamp.toNat % 2 ^ 42 = t at *
  generalize sequence.toNat % 2 ^ 12 = s at *
  generalize worker.toNat = w at *
  generalize process.toNat = p at *
  have h1 : t * 2 ^ 22 % 2 ^ 64 = t * 2 ^ 22 := Nat.mod_eq_of_lt (by omega)
  have h2 : w % 2 ^ 5 * 2 ^ 17 % 2 ^ 64 = w * 2 ^ 17 := by
    have hmod : w % 2 ^ 5 = w := Nat.mod_eq_of_lt (by omega)
    rw [hmod, Nat.mod_eq_of_lt (by omega)]
  have h3 : p % 2 ^ 5 * 2 ^ 12 % 2 ^ 64 = p * 2 ^ 12 := by
    have hmod : p % 2 ^ 5 = p := Nat.mod_eq_of_lt (by omega)
    rw [hmod, Nat.mod_eq_of_lt (by omega)]
  have h4 : s * 2 ^ 0 % 2 ^ 64 = s := by
    rw [Nat.pow_zero, Nat.mul_one, Nat.mod_eq_of_lt (by omega)]
  rw [h1, h2, h3, h4]
  have a1 : t * 2 ^ 22 ||| w * 2 ^ 17 = (t * 2 ^ 5 + w) * 2 ^ 17 := by
    rw [or_eq_add 22 (by omega)]
    omega
  have a2 : (t * 2 ^ 5 + w) * 2 ^ 17 ||| p * 2 ^ 12 = (t * 2 ^ 10 + w * 2 ^ 5 + p) * 2 ^ 12 := by
    rw [or_eq_add 17 (by omega)]
    omega
  rw [a1, a2, or_eq_add 12 (by omega)]
  omega

theorem toNat_timestamp (f : Flake) : f.timestamp.toNat = f.toNat / 2 ^ 22 := by
  have h : f.word.toNat / 2 ^ 22 < 2 ^ 42 := by
    have := f.word.toNat_lt
    omega
  have hmask : f.word.toNat / 2 ^ 22 &&& 0x3FFFFFFFFFF = f.word.toNat / 2 ^ 22 % 2 ^ 42 :=
    Nat.and_two_pow_sub_one_eq_mod _ 42
  simp only [timestamp, toNat, timestampShift, timestampMask, UInt64.toNat_and,
    UInt64.toNat_shiftRight, UInt64.reduceToNat, Nat.reduceMod, Nat.shiftRight_eq_div_pow, hmask]
  exact Nat.mod_eq_of_lt h

theorem toNat_worker (f : Flake) : f.worker.toNat = f.toNat / 2 ^ 17 % 32 := by
  simp only [worker, toNat, workerShift, SlotId.toNat_ofLowBits, UInt64.toNat_shiftRight,
    UInt64.reduceToNat, Nat.reduceMod, Nat.shiftRight_eq_div_pow]

theorem toNat_process (f : Flake) : f.process.toNat = f.toNat / 2 ^ 12 % 32 := by
  simp only [process, toNat, processShift, SlotId.toNat_ofLowBits, UInt64.toNat_shiftRight,
    UInt64.reduceToNat, Nat.reduceMod, Nat.shiftRight_eq_div_pow]

theorem toNat_sequence (f : Flake) : f.sequence.toNat = f.toNat % 4096 := by
  have hmask : f.word.toNat &&& 0xFFF = f.word.toNat % 2 ^ 12 :=
    Nat.and_two_pow_sub_one_eq_mod _ 12
  simp only [sequence, toNat, sequenceShift, sequenceMask, UInt64.toNat_toUInt16, UInt64.toNat_and,
    UInt64.toNat_shiftRight, UInt64.reduceToNat, Nat.reduceMod, Nat.shiftRight_zero, hmask]
  omega

end Snowflake.Flake
