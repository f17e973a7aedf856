import Snowflake.Generator
import Snowflake.Proofs.Generator.Counter

/-!
Polls and runs of polls. The counter of a generator divides the flakes of its slot into past and
future ones: a poll hands out a future flake and makes it a past one, and no flake returns.
-/

namespace Snowflake.Generator

/-- The flake that an answer hands out. -/
def flake? : Except GenerateError Poll → Option Flake
  | .ok (.ready f) => some f
  | .ok (.pending _) => none
  | .error _ => none

section Poll

variable {g : Generator} {now last : UInt64} {n : UInt16} {c : Counter}

theorem poll_of_overflow (h : Flake.maxTimestamp < now) :
    g.poll now = (.error (.timestampOverflow now), g) := by
  simp only [poll, if_pos h]

theorem poll_of_next_ok (h : now ≤ Flake.maxTimestamp) (hnext : g.counter.next now = (.ok n, c)) :
    g.poll now = (.ok (.ready (.pack now g.worker g.process n)), { g with counter := c }) := by
  simp only [poll, if_neg (UInt64.not_lt.mpr h), hnext]

theorem poll_of_exhausted (h : now ≤ Flake.maxTimestamp) (hlast : g.counter.last = some now)
    (hsequence : ¬ g.counter.sequence < Flake.maxSequence) :
    g.poll now = (.ok (.pending (now + 1)), g) := by
  simp only [poll, if_neg (UInt64.not_lt.mpr h), Counter.next_of_exhausted hlast hsequence]

theorem poll_of_lt_last (h : now ≤ Flake.maxTimestamp) (hlast : g.counter.last = some last)
    (hlt : now < last) : g.poll now = (g.behind last now, g) := by
  simp only [poll, if_neg (UInt64.not_lt.mpr h), Counter.next_of_lt_last hlast hlt]

theorem behind_of_lt (h : now < last) :
    g.behind last now =
      if last.toNat - now.toNat ≤ g.maxSkew.toNat then .ok (.pending last)
      else .error (.clockRegression last now) := by
  have hsub : (last - now).toNat = last.toNat - now.toNat :=
    UInt64.toNat_sub_of_le _ _ (UInt64.le_of_lt h)
  simp only [behind, UInt64.lt_iff_toNat_lt, hsub]
  split
  · rename_i hskew
    rw [if_neg (Nat.not_le.mpr hskew)]
  · rename_i hskew
    rw [if_pos (Nat.not_lt.mp hskew)]

end Poll

/-- Why a poll at the reading `now` has to wait, and until when. -/
inductive Pending (g : Generator) (now : UInt64) : UInt64 → Prop where
  | exhausted (hlast : g.counter.last = some now) (hfull : Flake.maxSequence ≤ g.counter.sequence) :
      Pending g now (now + 1)
  | behind {last : UInt64} (hlast : g.counter.last = some last) (hlt : now < last)
      (hskew : last.toNat - now.toNat ≤ g.maxSkew.toNat) : Pending g now last

/-- All that a poll at the reading `now` can do. -/
inductive Polls (g : Generator) (now : UInt64) : Except GenerateError Poll × Generator → Prop where
  | overflow (hnow : Flake.maxTimestamp < now) : Polls g now (.error (.timestampOverflow now), g)
  | ready {n : UInt16} (hnow : now ≤ Flake.maxTimestamp)
      (hnext : g.counter.next now = (.ok n, ⟨some now, n⟩)) :
      Polls g now
        (.ok (.ready (.pack now g.worker g.process n)), { g with counter := ⟨some now, n⟩ })
  | pending {y : UInt64} (hnow : now ≤ Flake.maxTimestamp) (h : g.Pending now y) :
      Polls g now (.ok (.pending y), g)
  | regression {last : UInt64} (hnow : now ≤ Flake.maxTimestamp)
      (hlast : g.counter.last = some last) (hlt : now < last)
      (hskew : g.maxSkew.toNat < last.toNat - now.toNat) :
      Polls g now (.error (.clockRegression last now), g)

theorem polls (g : Generator) (now : UInt64) : g.Polls now (g.poll now) := by
  by_cases hover : Flake.maxTimestamp < now
  · rw [poll_of_overflow hover]
    exact .overflow hover
  have hnow := UInt64.not_lt.mp hover
  rcases g.counter.next_cases now with
    ⟨-, -, ⟨hlast, hfull, -⟩ | ⟨last, hlast, hlt, -⟩⟩ | ⟨n, hnext, -⟩
  · rw [poll_of_exhausted hnow hlast hfull]
    exact .pending hnow (.exhausted hlast (UInt16.not_lt.mp hfull))
  · rw [poll_of_lt_last hnow hlast hlt, behind_of_lt hlt]
    split
    · rename_i hskew
      exact .pending hnow (.behind hlast hlt hskew)
    · rename_i hskew
      exact .regression hnow hlast hlt (Nat.not_le.mp hskew)
  · rw [poll_of_next_ok hnow hnext]
    exact .ready hnow hnext

section Answer

variable {g g' : Generator} {now y : UInt64}

theorem Pending.poll_eq (h : g.Pending now y) (hnow : now ≤ Flake.maxTimestamp) :
    g.poll now = (.ok (.pending y), g) := by
  cases h with
  | exhausted hlast hfull => exact poll_of_exhausted hnow hlast (UInt16.not_lt.mpr hfull)
  | behind hlast hlt hskew => rw [poll_of_lt_last hnow hlast hlt, behind_of_lt hlt, if_pos hskew]

theorem poll_eq_pending_iff :
    g.poll now = (.ok (.pending y), g') ↔ g' = g ∧ now ≤ Flake.maxTimestamp ∧ g.Pending now y := by
  constructor
  · intro h
    have hpolls := g.polls now
    rw [h] at hpolls
    cases hpolls with
    | pending hnow hpending => exact ⟨rfl, hnow, hpending⟩
  · rintro ⟨rfl, hnow, hpending⟩
    exact hpending.poll_eq hnow

theorem poll_ne_waitTimeout : g.poll now ≠ (.error (.waitTimeout y), g') := by
  intro h
  have hpolls := g.polls now
  rw [h] at hpolls
  cases hpolls

theorem poll_cases (g : Generator) (now : UInt64) :
    (flake? (g.poll now).1 = none ∧ (g.poll now).2 = g) ∨
      ∃ n, now ≤ Flake.maxTimestamp ∧ g.counter.next now = (.ok n, ⟨some now, n⟩) ∧
        g.poll now = (.ok (.ready (.pack now g.worker g.process n)),
          { g with counter := ⟨some now, n⟩ }) := by
  have hpolls := g.polls now
  generalize g.poll now = answer at hpolls ⊢
  cases hpolls with
  | overflow hnow => exact .inl ⟨rfl, rfl⟩
  | ready hnow hnext => exact .inr ⟨_, hnow, hnext, rfl⟩
  | pending hnow hpending => exact .inl ⟨rfl, rfl⟩
  | regression hnow hlast hlt hskew => exact .inl ⟨rfl, rfl⟩

theorem eq_of_flake?_eq_none (h : flake? (g.poll now).1 = none) : (g.poll now).2 = g := by
  rcases g.poll_cases now with ⟨-, hsame⟩ | ⟨n, -, -, hpoll⟩
  · exact hsame
  · rw [hpoll] at h
    cases h

end Answer

/-- The flakes of the slot of `g` that its counter has passed. -/
structure Past (g : Generator) (f : Flake) : Prop where
  worker_eq : f.worker = g.worker
  process_eq : f.process = g.process
  serial_lt : f.serial < g.counter.position

/-- The flakes of the slot of `g` that its counter has still to come to. -/
structure Future (g : Generator) (f : Flake) : Prop where
  worker_eq : f.worker = g.worker
  process_eq : f.process = g.process
  position_le : g.counter.position ≤ f.serial

theorem Past.word_lt {g : Generator} {f f' : Flake} (hf : g.Past f) (hf' : g.Future f') :
    f.word < f'.word := by
  rw [Flake.word_lt_iff_serial_lt (hf.worker_eq.trans hf'.worker_eq.symm)
    (hf.process_eq.trans hf'.process_eq.symm)]
  exact Nat.lt_of_lt_of_le hf.serial_lt hf'.position_le

theorem Future.last_le {g : Generator} {last : UInt64} {f : Flake} (hf : g.Future f)
    (hlast : g.counter.last = some last) :
    last ≤ f.timestamp ∧ (Flake.maxSequence ≤ g.counter.sequence → last < f.timestamp) := by
  have hposition := hf.position_le
  rw [Counter.position_of_last hlast, Flake.serial] at hposition
  have hsequence := UInt16.le_iff_toNat_le.mp f.sequence_le_maxSequence
  rw [Flake.toNat_maxSequence] at hsequence
  rw [UInt64.le_iff_toNat_le, UInt64.lt_iff_toNat_lt, UInt16.le_iff_toNat_le,
    Flake.toNat_maxSequence]
  constructor
  · omega
  · intro hfull
    omega

/-- A generator and a later state of it. -/
structure Precedes (g g' : Generator) : Prop where
  worker_eq : g'.worker = g.worker
  process_eq : g'.process = g.process
  position_le : g.counter.position ≤ g'.counter.position

namespace Precedes

variable {g g' g'' : Generator} {f : Flake}

theorem refl (g : Generator) : g.Precedes g :=
  ⟨rfl, rfl, Nat.le_refl _⟩

theorem trans (h : g.Precedes g') (h' : g'.Precedes g'') : g.Precedes g'' :=
  ⟨h'.worker_eq.trans h.worker_eq, h'.process_eq.trans h.process_eq,
    Nat.le_trans h.position_le h'.position_le⟩

theorem past (h : g.Precedes g') (hf : g.Past f) : g'.Past f :=
  ⟨hf.worker_eq.trans h.worker_eq.symm, hf.process_eq.trans h.process_eq.symm,
    Nat.lt_of_lt_of_le hf.serial_lt h.position_le⟩

theorem future (h : g.Precedes g') (hf : g'.Future f) : g.Future f :=
  ⟨hf.worker_eq.trans h.worker_eq, hf.process_eq.trans h.process_eq,
    Nat.le_trans h.position_le hf.position_le⟩

end Precedes

/-- A poll that hands out `f` passes from before it to behind it. -/
theorem poll_advances {g : Generator} (hg : g.counter.Valid) (now : UInt64) :
    (g.poll now).2.counter.Valid ∧ g.Precedes (g.poll now).2 ∧
      ∀ f, flake? (g.poll now).1 = some f → g.Future f ∧ (g.poll now).2.Past f := by
  rcases g.poll_cases now with ⟨hnone, hsame⟩ | ⟨n, hnow, hnext, hpoll⟩
  · rw [hsame, hnone]
    exact ⟨hg, .refl g, fun f hf => nomatch hf⟩
  · obtain ⟨-, hn, hposition⟩ := hg.next_ok hnext
    rw [hpoll]
    have hbeyond : (⟨some now, n⟩ : Counter).position = now.toNat * 2 ^ 12 + n.toNat + 1 :=
      Counter.position_of_last rfl
    refine ⟨⟨hn, fun h => nomatch h⟩, ⟨rfl, rfl, ?_⟩, ?_⟩
    · rw [hbeyond]
      exact Nat.le_succ_of_le hposition
    · intro f hf
      obtain rfl : Flake.pack now g.worker g.process n = f := by
        simpa only [flake?, Option.some.injEq] using hf
      have hserial := Flake.serial_pack g.worker g.process hnow hn
      refine ⟨⟨Flake.worker_pack .., Flake.process_pack .., ?_⟩,
        ⟨Flake.worker_pack .., Flake.process_pack .., ?_⟩⟩
      · rw [hserial]
        exact hposition
      · rw [hserial, hbeyond]
        exact Nat.lt_succ_self _

/-- The generator after polls at these readings. -/
def afterPolls (g : Generator) (readings : List UInt64) : Generator :=
  readings.foldl (fun g now => (g.poll now).2) g

/-- The flakes that polls at these readings hand out, in their order. -/
def polled : Generator → List UInt64 → List Flake
  | _, [] => []
  | g, now :: readings => (flake? (g.poll now).1).toList ++ polled (g.poll now).2 readings

theorem afterPolls_append (g : Generator) (readings readings' : List UInt64) :
    g.afterPolls (readings ++ readings') = (g.afterPolls readings).afterPolls readings' :=
  List.foldl_append

theorem polled_append (g : Generator) (readings readings' : List UInt64) :
    g.polled (readings ++ readings') =
      g.polled readings ++ (g.afterPolls readings).polled readings' := by
  induction readings generalizing g with
  | nil => rfl
  | cons now readings ih =>
      rw [List.cons_append, polled, polled, ih, List.append_assoc]
      rfl

theorem waitTimeout_afterPolls (g : Generator) (readings : List UInt64) :
    (g.afterPolls readings).waitTimeout = g.waitTimeout := by
  induction readings generalizing g with
  | nil => rfl
  | cons now readings ih =>
      have hpoll : (g.poll now).2.waitTimeout = g.waitTimeout := by
        rcases g.poll_cases now with ⟨-, hsame⟩ | ⟨n, -, -, hpoll⟩
        · rw [hsame]
        · rw [hpoll]
      exact (ih (g.poll now).2).trans hpoll

theorem valid_resume (config : Config) (start : Option Checkpoint) :
    (resume config (.start start)).counter.Valid :=
  Counter.valid_start start

section Run

variable {g : Generator} (hg : g.counter.Valid) (readings : List UInt64)

include hg

theorem afterPolls_advances :
    (g.afterPolls readings).counter.Valid ∧ g.Precedes (g.afterPolls readings) := by
  induction readings generalizing g with
  | nil => exact ⟨hg, .refl g⟩
  | cons now readings ih =>
      obtain ⟨hvalid, hprecedes, -⟩ := poll_advances hg now
      obtain ⟨hvalid', hprecedes'⟩ := ih hvalid
      exact ⟨hvalid', hprecedes.trans hprecedes'⟩

theorem future_of_mem_polled {f : Flake} (hf : f ∈ g.polled readings) : g.Future f := by
  induction readings generalizing g with
  | nil => exact nomatch hf
  | cons now readings ih =>
      obtain ⟨hvalid, hprecedes, hflake⟩ := poll_advances hg now
      rcases List.mem_append.mp hf with hf | hf
      · exact (hflake f (Option.mem_toList.mp hf)).1
      · exact hprecedes.future (ih hvalid hf)

theorem past_of_mem_polled {f : Flake} (hf : f ∈ g.polled readings) :
    (g.afterPolls readings).Past f := by
  induction readings generalizing g with
  | nil => exact nomatch hf
  | cons now readings ih =>
      obtain ⟨hvalid, -, hflake⟩ := poll_advances hg now
      rcases List.mem_append.mp hf with hf | hf
      · have hpast := (hflake f (Option.mem_toList.mp hf)).2
        exact (afterPolls_advances hvalid readings).2.past hpast
      · exact ih hvalid hf

theorem pairwise_polled : (g.polled readings).Pairwise fun f f' => f.word < f'.word := by
  induction readings generalizing g with
  | nil => exact List.Pairwise.nil
  | cons now readings ih =>
      obtain ⟨hvalid, -, hflake⟩ := poll_advances hg now
      refine List.pairwise_append.mpr ⟨?_, ih hvalid, ?_⟩
      · cases flake? (g.poll now).1 with
        | none => exact List.Pairwise.nil
        | some f => exact List.pairwise_singleton _ f
      · intro f hf f' hf'
        have hpast := (hflake f (Option.mem_toList.mp hf)).2
        exact hpast.word_lt (future_of_mem_polled hvalid readings hf')

end Run

end Snowflake.Generator
