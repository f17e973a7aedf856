import Snowflake.Generator.Counter
import Snowflake.Proofs.Flake.Fields

/-!
The steps of a counter. A step that fails leaves the counter as it was; one that succeeds gives a
serial number at the position of the counter or beyond it, and moves the position past it.
-/

namespace Snowflake

/-- The last millisecond and number of a counter, saved to go on from them later. -/
structure Checkpoint where
  last : UInt64
  sequence : UInt16
  deriving DecidableEq

namespace Counter

/-- The counter to begin with: a new one, or one that goes on from a checkpoint. -/
def start : Option Checkpoint → Counter
  | none => .new
  | some p => .resume p.last p.sequence

structure Valid (c : Counter) : Prop where
  sequence_le : c.sequence ≤ Flake.maxSequence
  sequence_eq_zero : c.last = none → c.sequence = 0

theorem sequence_resume (last : UInt64) (sequence : UInt16) :
    (resume last sequence).sequence = min sequence 4095 := by
  have hmax : Flake.maxSequence = 4095 := by decide
  simp only [resume, hmax]
  change _ = if sequence ≤ 4095 then sequence else 4095
  by_cases h : sequence ≤ 4095
  · rw [if_neg (UInt16.not_lt.mpr h), if_pos h]
  · rw [if_pos (UInt16.not_le.mp h), if_neg h]

theorem toNat_sequence_resume (last : UInt64) (sequence : UInt16) :
    (resume last sequence).sequence.toNat = min sequence.toNat 4095 := by
  have hmax := Flake.toNat_maxSequence
  simp only [resume]
  split
  · rename_i h
    rw [UInt16.lt_iff_toNat_lt] at h
    omega
  · rename_i h
    rw [UInt16.lt_iff_toNat_lt] at h
    omega

theorem valid_start (p : Option Checkpoint) : (start p).Valid := by
  cases p with
  | none => exact ⟨by decide, fun _ => rfl⟩
  | some p =>
      refine ⟨?_, fun h => nomatch h⟩
      change (resume p.last p.sequence).sequence ≤ _
      rw [UInt16.le_iff_toNat_le, toNat_sequence_resume, Flake.toNat_maxSequence]
      exact Nat.min_le_right _ _

section Next

variable {c : Counter} {now last : UInt64}

theorem next_of_last_eq_none (hlast : c.last = none) :
    c.next now = (.ok 0, ⟨some now, 0⟩) := by
  simp only [next, hlast]

theorem next_of_last_lt (hlast : c.last = some last) (h : last < now) :
    c.next now = (.ok 0, ⟨some now, 0⟩) := by
  simp only [next, hlast, if_pos h]

theorem next_of_lt_last (hlast : c.last = some last) (h : now < last) :
    c.next now = (.error (.regression last now), c) := by
  have hnot : ¬ last < now := by
    rw [UInt64.lt_iff_toNat_lt] at h ⊢
    omega
  simp only [next, hlast, if_neg hnot, if_pos h]

theorem next_of_sequence_lt (hlast : c.last = some now) (h : c.sequence < Flake.maxSequence) :
    c.next now = (.ok (c.sequence + 1), ⟨some now, c.sequence + 1⟩) := by
  simp only [next, hlast, if_neg (UInt64.lt_irrefl now), if_pos h]

theorem next_of_exhausted (hlast : c.last = some now) (h : ¬ c.sequence < Flake.maxSequence) :
    c.next now = (.error (.exhausted now), c) := by
  simp only [next, hlast, if_neg (UInt64.lt_irrefl now), if_neg h]

end Next

theorem next_cases (c : Counter) (now : UInt64) :
    (∃ e, c.next now = (.error e, c) ∧
        (c.last = some now ∧ ¬ c.sequence < Flake.maxSequence ∧ e = .exhausted now ∨
          ∃ last, c.last = some last ∧ now < last ∧ e = .regression last now)) ∨
      ∃ n, c.next now = (.ok n, ⟨some now, n⟩) ∧
        ((∀ last, c.last = some last → last < now) ∧ n = 0 ∨
          c.last = some now ∧ c.sequence < Flake.maxSequence ∧ n = c.sequence + 1) := by
  rcases hlast : c.last with _ | last
  · exact .inr ⟨0, next_of_last_eq_none hlast, .inl ⟨fun _ h => (nomatch h), rfl⟩⟩
  · rcases Nat.lt_trichotomy last.toNat now.toNat with h | h | h
    · have hlt : last < now := UInt64.lt_iff_toNat_lt.mpr h
      refine .inr ⟨0, next_of_last_lt hlast hlt, .inl ⟨?_, rfl⟩⟩
      rintro _ ⟨⟩
      exact hlt
    · obtain rfl : last = now := UInt64.toNat_inj.mp h
      by_cases hless : c.sequence < Flake.maxSequence
      · exact .inr ⟨_, next_of_sequence_lt hlast hless, .inr ⟨rfl, hless, rfl⟩⟩
      · exact .inl ⟨_, next_of_exhausted hlast hless, .inl ⟨rfl, hless, rfl⟩⟩
    · have hlt : now < last := UInt64.lt_iff_toNat_lt.mpr h
      exact .inl ⟨_, next_of_lt_last hlast hlt, .inr ⟨last, rfl, hlt, rfl⟩⟩

theorem toNat_sequence_add_one {c : Counter} (h : c.sequence < Flake.maxSequence) :
    (c.sequence + 1).toNat = c.sequence.toNat + 1 := by
  have hmax := Flake.toNat_maxSequence
  rw [UInt16.lt_iff_toNat_lt] at h
  rw [UInt16.toNat_add, UInt16.toNat_one]
  omega

/-- How many serial numbers are used up or passed over: those up to the last one given. -/
def position (c : Counter) : Nat :=
  match c.last with
  | none => 0
  | some last => last.toNat * 2 ^ 12 + c.sequence.toNat + 1

theorem position_of_last {c : Counter} {last : UInt64} (hlast : c.last = some last) :
    c.position = last.toNat * 2 ^ 12 + c.sequence.toNat + 1 := by
  simp only [position, hlast]

theorem position_start (p : Checkpoint) :
    (start (some p)).position = p.last.toNat * 2 ^ 12 + min p.sequence.toNat 4095 + 1 := by
  rw [← toNat_sequence_resume p.last]
  exact position_of_last rfl

/-- The number that a valid counter gives fits its field, and with the millisecond it makes a
serial number that the counter has not passed. -/
theorem Valid.next_ok {c c' : Counter} {now : UInt64} {n : UInt16} (hc : c.Valid)
    (h : c.next now = (.ok n, c')) :
    c' = ⟨some now, n⟩ ∧ n ≤ Flake.maxSequence ∧
      c.position ≤ now.toNat * 2 ^ 12 + n.toNat := by
  have hmax := Flake.toNat_maxSequence
  have hsequence := hc.sequence_le
  rw [UInt16.le_iff_toNat_le] at hsequence
  rcases next_cases c now with ⟨e, herror, -⟩ | ⟨m, hok, hm⟩
  · rw [herror] at h
    cases h
  rw [hok] at h
  cases h
  refine ⟨rfl, ?_⟩
  rcases hm with ⟨hlast, rfl⟩ | ⟨hlast, hless, rfl⟩
  · refine ⟨by decide, ?_⟩
    rcases heq : c.last with _ | last
    · simp only [position, heq]
      omega
    · have hlt := UInt64.lt_iff_toNat_lt.mp (hlast last heq)
      rw [position_of_last heq]
      omega
  · have hnat := UInt16.lt_iff_toNat_lt.mp hless
    have hsucc := toNat_sequence_add_one hless
    rw [position_of_last hlast, UInt16.le_iff_toNat_le, hsucc]
    omega

end Counter

end Snowflake
