import Snowflake.Proofs.Generator.Advance
import Snowflake.Proofs.Generator.Snapshot
import Snowflake.Proofs.Time.Span

/-!
Polls in exact arithmetic: each sum, difference and shift is taken of whole numbers, and there is no
answer where a result does not fit its word or a mask takes a bit off a field. There always is one,
and it is the answer of the poll, which therefore never wraps and never cuts anything off.
-/

namespace Snowflake

namespace Exact

/-- The word of 64 bits that holds a number, if one does. -/
def word? : Int → Option UInt64
  | .ofNat n => if n < 2 ^ 64 then some (.ofNat n) else none
  | .negSucc _ => none

/-- The word of 16 bits that holds a number, if one does. -/
def halfWord? : Int → Option UInt16
  | .ofNat n => if n < 2 ^ 16 then some (.ofNat n) else none
  | .negSucc _ => none

/-- A field of a flake at its place. There is none if the mask takes a bit off the value, or the
shift pushes one out of the word. -/
def field? (value mask shift : UInt64) : Option UInt64 :=
  if value &&& mask = value then word? (value.toNat * 2 ^ shift.toNat : Nat) else none

end Exact

namespace Counter

/-- `next`, with the exact successor of the sequence. -/
def nextExact? (c : Counter) (now : UInt64) : Option (Except CounterError UInt16 × Counter) :=
  match c.last with
  | none => some (.ok 0, ⟨some now, 0⟩)
  | some last =>
      if last < now then some (.ok 0, ⟨some now, 0⟩)
      else if now < last then some (.error (.regression last now), c)
      else if c.sequence < Flake.maxSequence then do
        let sequence ← Exact.halfWord? (c.sequence.toNat + 1)
        some (.ok sequence, ⟨c.last, sequence⟩)
      else some (.error (.exhausted now), c)

end Counter

/-- `pack`, for fields that their masks leave as they are. -/
def Flake.packExact? (timestamp : UInt64) (worker : WorkerId) (process : ProcessId)
    (sequence : UInt16) : Option Flake := do
  let timestamp ← Exact.field? timestamp timestampMask timestampShift
  let worker ← Exact.field? worker.toWord slotMask workerShift
  let process ← Exact.field? process.toWord slotMask processShift
  let sequence ← Exact.field? sequence.toUInt64 sequenceMask sequenceShift
  some ⟨timestamp ||| worker ||| process ||| sequence⟩

namespace Generator

/-- `behind`, with the exact difference of the readings. -/
def behindExact? (g : Generator) (last now : UInt64) : Option (Except GenerateError Poll) := do
  let gap ← Exact.word? (last.toNat - now.toNat)
  some (if g.maxSkew < gap then .error (.clockRegression last now) else .ok (.pending last))

/-- `poll`, with every step exact. -/
def pollExact? (g : Generator) (now : UInt64) :
    Option (Except GenerateError Poll × Generator) :=
  if Flake.maxTimestamp < now then some (.error (.timestampOverflow now), g)
  else do
    match ← g.counter.nextExact? now with
    | (.ok sequence, counter) =>
        let flake ← Flake.packExact? now g.worker g.process sequence
        some (.ok (.ready flake), { g with counter })
    | (.error (.exhausted timestamp), counter) =>
        let yieldUntil ← Exact.word? (timestamp.toNat + 1)
        some (.ok (.pending yieldUntil), { g with counter })
    | (.error (.regression last now), counter) =>
        let answer ← g.behindExact? last now
        some (answer, { g with counter })

end Generator

namespace Exact

theorem word?_natCast {n : Nat} (h : n < 2 ^ 64) : word? n = some (.ofNat n) :=
  if_pos h

theorem word?_add_one {a : UInt64} (h : a.toNat + 1 < 2 ^ 64) :
    word? (a.toNat + 1) = some (a + 1) := by
  have hword := word?_natCast h
  rw [Nat.cast_add, Nat.cast_one] at hword
  rw [hword, UInt64.ofNat_add, UInt64.ofNat_toNat]
  rfl

theorem word?_sub {a b : UInt64} (h : b ≤ a) : word? (a.toNat - b.toNat) = some (a - b) := by
  have ha := a.toNat_lt
  have hsub := UInt64.toNat_sub_of_le a b h
  rw [UInt64.le_iff_toNat_le] at h
  rw [← Nat.cast_sub h, word?_natCast (by omega), ← hsub, UInt64.ofNat_toNat]

theorem halfWord?_add_one {a b : UInt16} (h : a < b) :
    halfWord? (a.toNat + 1) = some (a + 1) := by
  have hb := b.toNat_lt
  rw [UInt16.lt_iff_toNat_lt] at h
  have hword : halfWord? (a.toNat + 1 : Nat) = some (.ofNat (a.toNat + 1)) := if_pos (by omega)
  rw [Nat.cast_add, Nat.cast_one] at hword
  rw [hword, UInt16.ofNat_add, UInt16.ofNat_toNat]
  rfl

theorem field?_eq_some {value mask shift : UInt64} {bits : Nat}
    (hmask : mask.toNat = 2 ^ bits - 1) (hshift : shift.toNat < 64)
    (hplace : bits + shift.toNat ≤ 64) (hvalue : value.toNat < 2 ^ bits) :
    field? value mask shift = some ((value &&& mask) <<< shift) := by
  have hmasked : value &&& mask = value := by
    apply UInt64.toNat_inj.mp
    rw [UInt64.toNat_and, hmask, Nat.and_two_pow_sub_one_eq_mod, Nat.mod_eq_of_lt hvalue]
  have hfits : value.toNat * 2 ^ shift.toNat < 2 ^ 64 :=
    calc value.toNat * 2 ^ shift.toNat
        < 2 ^ bits * 2 ^ shift.toNat := Nat.mul_lt_mul_of_pos_right hvalue (Nat.two_pow_pos _)
      _ = 2 ^ (bits + shift.toNat) := (Nat.pow_add ..).symm
      _ ≤ 2 ^ 64 := Nat.pow_le_pow_right (by decide) hplace
  rw [field?, if_pos hmasked, word?_natCast hfits, hmasked]
  congr 1
  apply UInt64.toNat_inj.mp
  rw [UInt64.toNat_ofNat_of_lt' hfits, UInt64.toNat_shiftLeft, Nat.mod_eq_of_lt hshift,
    Nat.shiftLeft_eq, Nat.mod_eq_of_lt hfits]

end Exact

theorem Flake.packExact?_eq {timestamp : UInt64} (worker : WorkerId) (process : ProcessId)
    {sequence : UInt16} (ht : timestamp ≤ maxTimestamp) (hs : sequence ≤ maxSequence) :
    packExact? timestamp worker process sequence =
      some (pack timestamp worker process sequence) := by
  have hw := worker.toNat_lt
  have hp := process.toNat_lt
  rw [UInt64.le_iff_toNat_le, toNat_maxTimestamp] at ht
  rw [UInt16.le_iff_toNat_le, toNat_maxSequence] at hs
  rw [← SlotId.toNat_toWord] at hw hp
  rw [← UInt16.toNat_toUInt64] at hs
  have htimestamp := Exact.field?_eq_some (by decide : timestampMask.toNat = 2 ^ 42 - 1)
    (by decide : timestampShift.toNat < 64) (by decide) (by omega : timestamp.toNat < 2 ^ 42)
  have hslot : slotMask.toNat = 2 ^ 5 - 1 := by decide
  have hworker := Exact.field?_eq_some hslot (by decide : workerShift.toNat < 64) (by decide) hw
  have hprocess := Exact.field?_eq_some hslot (by decide : processShift.toNat < 64) (by decide) hp
  have hsequence := Exact.field?_eq_some (by decide : sequenceMask.toNat = 2 ^ 12 - 1)
    (by decide : sequenceShift.toNat < 64) (by decide)
    (by omega : sequence.toUInt64.toNat < 2 ^ 12)
  simp only [packExact?, htimestamp, hworker, hprocess, hsequence, Option.bind_eq_bind,
    Option.bind_some, pack]

theorem Counter.nextExact?_eq (c : Counter) (now : UInt64) :
    c.nextExact? now = some (c.next now) := by
  rcases hlast : c.last with _ | last
  · simp only [nextExact?, next, hlast]
  by_cases hlt : last < now
  · simp only [nextExact?, next, hlast, if_pos hlt]
  by_cases hgt : now < last
  · simp only [nextExact?, next, hlast, if_neg hlt, if_pos hgt]
  by_cases hless : c.sequence < Flake.maxSequence
  · simp only [nextExact?, next, hlast, if_neg hlt, if_neg hgt, if_pos hless,
      Exact.halfWord?_add_one hless, Option.bind_eq_bind, Option.bind_some]
  · simp only [nextExact?, next, hlast, if_neg hlt, if_neg hgt, if_neg hless]

namespace Generator

theorem behindExact?_eq (g : Generator) {last now : UInt64} (h : now ≤ last) :
    g.behindExact? last now = some (g.behind last now) := by
  simp only [behindExact?, behind, Exact.word?_sub h, Option.bind_eq_bind, Option.bind_some]

theorem pollExact?_eq (g : Generator) (now : UInt64) : g.pollExact? now = some (g.poll now) := by
  by_cases hover : Flake.maxTimestamp < now
  · simp only [pollExact?, poll, if_pos hover]
  have hnow := UInt64.not_lt.mp hover
  rcases g.counter.next_cases now with
    ⟨_, hnext, ⟨-, -, rfl⟩ | ⟨last, -, hlt, rfl⟩⟩ | ⟨n, hnext, -⟩
  · have hword : now.toNat + 1 < 2 ^ 64 := by
      rw [UInt64.le_iff_toNat_le, Flake.toNat_maxTimestamp] at hnow
      omega
    simp only [pollExact?, poll, if_neg hover, Counter.nextExact?_eq, hnext,
      Exact.word?_add_one hword, Option.bind_eq_bind, Option.bind_some]
  · simp only [pollExact?, poll, if_neg hover, Counter.nextExact?_eq, hnext,
      g.behindExact?_eq (UInt64.le_of_lt hlt), Option.bind_eq_bind, Option.bind_some]
  · have hsequence := Counter.le_maxSequence_of_next_ok hnext
    simp only [pollExact?, poll, if_neg hover, Counter.nextExact?_eq, hnext,
      Flake.packExact?_eq g.worker g.process hnow hsequence, Option.bind_eq_bind, Option.bind_some]

theorem resume_counter_afterCalls (config : Config) (c : Counter) (calls : List Call) :
    resume config ((resume config c).afterCalls calls).counter =
      (resume config c).afterCalls calls := by
  obtain ⟨readings, -, hafter⟩ := (resume config c).exists_polled calls
  rw [hafter]
  exact resume_counter_afterPolls config c readings

theorem fields_of_poll {g : Generator} {now : UInt64} {f : Flake}
    (h : flake? (g.poll now).1 = some f) :
    ∃ n, (g.counter.next now).1 = .ok n ∧ f.fields = ⟨now, g.worker, g.process, n⟩ := by
  rcases g.poll_cases now with ⟨hnone, -⟩ | ⟨n, hnow, hnext, hpoll⟩
  · rw [hnone] at h
    cases h
  rw [hpoll] at h
  cases h
  have hsequence := Counter.le_maxSequence_of_next_ok hnext
  refine ⟨n, by rw [hnext], ?_⟩
  rw [Flake.fields, Flake.timestamp_pack _ _ _ hnow, Flake.worker_pack, Flake.process_pack,
    Flake.sequence_pack _ _ _ hsequence]

theorem pollExact?_afterCalls (config : Config) (start : Option Checkpoint) (calls : List Call)
    (now : UInt64) :
    let g := (resume config (.start start)).afterCalls calls
    g.counter.sequence.toNat ≤ 4095 ∧ g.maxSkew.toNat = min config.maxSkew.millis (2 ^ 64 - 1) ∧
      g.pollExact? now = some (g.poll now) ∧
      ∀ f, flake? (g.poll now).1 = some f →
        ∃ n, (g.counter.next now).1 = .ok n ∧
          f.fields = ⟨now, config.worker, config.process, n⟩ := by
  intro g
  have hsequence : g.counter.sequence ≤ Flake.maxSequence :=
    (afterCalls_advances (valid_resume config start) calls).1.sequence_le
  have hresumed : resume config g.counter = g :=
    resume_counter_afterCalls config (.start start) calls
  refine ⟨?_, ?_, g.pollExact?_eq now, ?_⟩
  · rwa [UInt16.le_iff_toNat_le, Flake.toNat_maxSequence] at hsequence
  · rw [← hresumed]
    exact config.maxSkew.toNat_millisWord
  · intro f hf
    obtain ⟨n, hnext, hfields⟩ := fields_of_poll hf
    rw [← hresumed] at hfields
    exact ⟨n, hnext, hfields⟩

/-- The last number of the last millisecond, after a reading that is behind by all of it. -/
theorem pollExact?_afterCalls_in_last_millisecond :
    let config : Config := { Config.default with maxSkew := .ofMillis 0xFFFFFFFFFFFFFFFF }
    let g := (resume config (.start (some ⟨Flake.maxTimestamp, 4094⟩))).afterCalls [.poll 0]
    let f := Flake.pack Flake.maxTimestamp .zero .zero 4095
    flake? (g.poll Flake.maxTimestamp).1 = some f ∧
      f.fields = ⟨Flake.maxTimestamp, .zero, .zero, 4095⟩ ∧
      g.pollExact? Flake.maxTimestamp = some (g.poll Flake.maxTimestamp) := by
  intro config g f
  have hready : flake? (g.poll Flake.maxTimestamp).1 = some f := by decide
  obtain ⟨-, -, hexact, hfields⟩ := pollExact?_afterCalls config
    (some ⟨Flake.maxTimestamp, 4094⟩) [.poll 0] Flake.maxTimestamp
  obtain ⟨n, hnext, hf⟩ := hfields f hready
  have hn : (g.counter.next Flake.maxTimestamp).1 = .ok 4095 := by decide
  obtain rfl : n = 4095 := Except.ok.inj (hnext.symm.trans hn)
  exact ⟨hready, hf, hexact⟩

/-- A difference below zero and fields that are too large have no exact answer. -/
example :
    (new .default).behindExact? 0 1 = none ∧
      Flake.packExact? 0x40000000000 .zero .zero 0 = none ∧
      Flake.packExact? 0 .zero .zero 4096 = none := by
  decide

end Generator

end Snowflake
