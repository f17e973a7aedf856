import Snowflake.Proofs.Generator.Poll
import Snowflake.Proofs.Time.Span

/-!
What a poll answers, told from the readings of the clock before it and in no matter which order.
Of all of them the counter keeps only the latest and how often it was read.
-/

namespace Snowflake

instance instLawfulOrderMaxUInt64 : Std.LawfulOrderMax UInt64 := by
  apply Std.LawfulOrderMax.of_max_le_iff
  · intro a b c
    change (if a ≤ b then b else a) ≤ c ↔ _
    simp only [UInt64.le_iff_toNat_le]
    split
    · omega
    · omega
  · intro a b
    change (if a ≤ b then b else a) = a ∨ (if a ≤ b then b else a) = b
    split
    · exact .inr rfl
    · exact .inl rfl

/-- What a generator goes on from: a checkpoint, if there is one, and the readings of its polls. -/
structure History where
  start : Option Checkpoint
  readings : List UInt64

namespace History

def marks (h : History) : List UInt64 :=
  (h.start.map Checkpoint.last).toList ++ h.readings.filter (· ≤ Flake.maxTimestamp)

/-- The greatest reading, and the checkpoint counts as one; readings that do not fit a flake do
not. -/
def latest? (h : History) : Option UInt64 :=
  h.marks.max?

/-- How many numbers of a millisecond were asked for, those up to the checkpoint included. -/
def demand (h : History) (millisecond : UInt64) : Nat :=
  h.readings.count millisecond +
    match h.start with
    | none => 0
    | some p => if p.last = millisecond then min p.sequence.toNat 4095 + 1 else 0

def ready (config : Config) (now : UInt64) (number : Nat) : Except GenerateError Poll :=
  .ok (.ready (.pack now config.worker config.process (.ofNat number)))

/-- The answer that is due at the reading `now`. -/
def answer (config : Config) (h : History) (now : UInt64) : Except GenerateError Poll :=
  if Flake.maxTimestamp < now then .error (.timestampOverflow now)
  else
    match h.latest? with
    | none => ready config now 0
    | some latest =>
        if latest < now then ready config now 0
        else if now = latest then
          if h.demand now ≤ 4095 then ready config now (h.demand now) else .ok (.pending (now + 1))
        else if latest.toNat - now.toNat ≤ config.maxSkew.millis then .ok (.pending latest)
        else .error (.clockRegression latest now)

def after (h : History) (now : UInt64) : History :=
  { h with readings := h.readings ++ [now] }

section After

variable {h : History} {now m : UInt64}

theorem latest?_eq_some_iff : h.latest? = some m ↔ m ∈ h.marks ∧ ∀ b ∈ h.marks, b ≤ m :=
  List.max?_eq_some_iff

theorem marks_after_of_overflow (hnow : Flake.maxTimestamp < now) :
    (h.after now).marks = h.marks := by
  have hdrop : [now].filter (· ≤ Flake.maxTimestamp) = [] := by
    simpa using UInt64.not_le.mpr hnow
  simp only [marks, after, List.filter_append, hdrop, List.append_nil]

theorem marks_after (hnow : now ≤ Flake.maxTimestamp) : (h.after now).marks = h.marks ++ [now] := by
  have hkeep : [now].filter (· ≤ Flake.maxTimestamp) = [now] := by
    simpa using hnow
  simp only [marks, after, List.filter_append, hkeep, List.append_assoc]

theorem latest?_after_of_overflow (hnow : Flake.maxTimestamp < now) :
    (h.after now).latest? = h.latest? := by
  rw [latest?, marks_after_of_overflow hnow, latest?]

theorem latest?_after_of_latest (hnow : now ≤ Flake.maxTimestamp)
    (hbefore : ∀ b ∈ h.marks, b ≤ now) : (h.after now).latest? = some now := by
  rw [latest?_eq_some_iff, marks_after hnow]
  refine ⟨List.mem_concat_self .., fun b hb => ?_⟩
  rcases List.mem_append.mp hb with hb | hb
  · exact hbefore b hb
  · rw [List.mem_singleton.mp hb]
    exact UInt64.le_refl now

theorem latest?_after_of_le (hnow : now ≤ Flake.maxTimestamp) (hlatest : h.latest? = some m)
    (hle : now ≤ m) : (h.after now).latest? = some m := by
  obtain ⟨hmem, hbefore⟩ := latest?_eq_some_iff.mp hlatest
  rw [latest?_eq_some_iff, marks_after hnow]
  refine ⟨List.mem_append_left _ hmem, fun b hb => ?_⟩
  rcases List.mem_append.mp hb with hb | hb
  · exact hbefore b hb
  · rw [List.mem_singleton.mp hb]
    exact hle

theorem demand_after_self : (h.after now).demand now = h.demand now + 1 := by
  simp only [demand, after, List.count_append, List.count_singleton_self]
  omega

theorem demand_after_of_ne (hne : now ≠ m) : (h.after now).demand m = h.demand m := by
  simp only [demand, after, List.count_append, List.count_singleton, beq_iff_eq, if_neg hne,
    Nat.add_zero]

/-- A millisecond that is not in the history has all its numbers left. -/
theorem demand_eq_zero (hnow : now ≤ Flake.maxTimestamp) (hmem : now ∉ h.marks) :
    h.demand now = 0 := by
  rw [marks, List.mem_append, not_or, List.mem_filter] at hmem
  obtain ⟨hstart, hreadings⟩ := hmem
  have hcount : h.readings.count now = 0 :=
    List.count_eq_zero.mpr fun hread => hreadings ⟨hread, decide_eq_true hnow⟩
  rw [demand, hcount]
  cases hp : h.start with
  | none => rfl
  | some p =>
      rw [hp] at hstart
      have hne : ¬ p.last = now := fun heq => hstart (by simp [heq])
      simp only [if_neg hne]

end After

section Answer

variable (config : Config) {h : History} {now m : UInt64}

theorem answer_of_overflow (hnow : Flake.maxTimestamp < now) :
    h.answer config now = .error (.timestampOverflow now) := by
  simp only [answer, if_pos hnow]

theorem answer_of_first (hnow : now ≤ Flake.maxTimestamp) (hbefore : ∀ b ∈ h.marks, b < now) :
    h.answer config now = ready config now 0 := by
  cases hlatest : h.latest? with
  | none => simp only [answer, if_neg (UInt64.not_lt.mpr hnow), hlatest]
  | some m =>
      have hlt : m < now := hbefore m (latest?_eq_some_iff.mp hlatest).1
      simp only [answer, if_neg (UInt64.not_lt.mpr hnow), hlatest, if_pos hlt]

theorem answer_of_again (hnow : now ≤ Flake.maxTimestamp) (hlatest : h.latest? = some now) :
    h.answer config now =
      if h.demand now ≤ 4095 then ready config now (h.demand now)
      else .ok (.pending (now + 1)) := by
  simp only [answer, if_neg (UInt64.not_lt.mpr hnow), hlatest, if_neg (UInt64.lt_irrefl now),
    if_true]

theorem answer_of_behind (hnow : now ≤ Flake.maxTimestamp) (hlatest : h.latest? = some m)
    (hlt : now < m) :
    h.answer config now =
      if m.toNat - now.toNat ≤ config.maxSkew.millis then .ok (.pending m)
      else .error (.clockRegression m now) := by
  have hnot : ¬ m < now := UInt64.not_lt.mpr (UInt64.le_of_lt hlt)
  simp only [answer, if_neg (UInt64.not_lt.mpr hnow), hlatest, if_neg hnot,
    if_neg (UInt64.ne_of_lt hlt)]

end Answer

section Perm

variable (start : Option Checkpoint) {readings reordered : List UInt64}
  (hperm : reordered.Perm readings)

include hperm

theorem latest?_eq_of_perm : latest? ⟨start, reordered⟩ = latest? ⟨start, readings⟩ := by
  have hmarks : (marks ⟨start, reordered⟩).Perm (marks ⟨start, readings⟩) :=
    (hperm.filter _).append_left _
  apply Option.ext
  intro m
  simp only [latest?_eq_some_iff, hmarks.mem_iff]

theorem demand_eq_of_perm (m : UInt64) :
    demand ⟨start, reordered⟩ m = demand ⟨start, readings⟩ m := by
  simp only [demand, hperm.count_eq]

theorem answer_eq_of_perm (config : Config) (now : UInt64) :
    answer config ⟨start, reordered⟩ now = answer config ⟨start, readings⟩ now := by
  simp only [answer, latest?_eq_of_perm start hperm, demand_eq_of_perm start hperm]

end Perm

end History

/-- The counter keeps of the history what its answers depend on. In a millisecond that does not fit
a flake no number is ever asked for, so there the sequence may be anything. -/
structure Counter.Summarises (c : Counter) (h : History) : Prop where
  last_eq : c.last = h.latest?
  sequence_eq : ∀ m, h.latest? = some m → m ≤ Flake.maxTimestamp →
    c.sequence.toNat + 1 = min (h.demand m) 4096

namespace Counter

open History

theorem summarises_start (start : Option Checkpoint) :
    (Counter.start start).Summarises ⟨start, []⟩ := by
  cases start with
  | none => exact ⟨rfl, fun m h => nomatch h⟩
  | some p =>
      refine ⟨rfl, fun m h _ => ?_⟩
      obtain rfl : p.last = m := Option.some.inj h
      have hdemand : demand ⟨some p, []⟩ p.last = min p.sequence.toNat 4095 + 1 := by
        simp only [demand, List.count_nil, if_pos, Nat.zero_add]
      change (resume p.last p.sequence).sequence.toNat + 1 = _
      rw [toNat_sequence_resume, hdemand]
      omega

namespace Summarises

variable {c : Counter} {h : History} {now m : UInt64}

theorem after_of_overflow (hc : c.Summarises h) (hnow : Flake.maxTimestamp < now) :
    c.Summarises (h.after now) := by
  refine ⟨by rw [latest?_after_of_overflow hnow, hc.last_eq], fun m hlatest hm => ?_⟩
  rw [latest?_after_of_overflow hnow] at hlatest
  have hne : now ≠ m := fun heq => UInt64.not_le.mpr hnow (heq ▸ hm)
  rw [demand_after_of_ne hne]
  exact hc.sequence_eq m hlatest hm

theorem after_of_behind (hc : c.Summarises h) (hnow : now ≤ Flake.maxTimestamp)
    (hlatest : h.latest? = some m) (hlt : now < m) : c.Summarises (h.after now) := by
  have hafter := latest?_after_of_le hnow hlatest (UInt64.le_of_lt hlt)
  refine ⟨by rw [hafter, hc.last_eq, hlatest], fun m' hlatest' hm => ?_⟩
  obtain rfl : m = m' := Option.some.inj (hafter.symm.trans hlatest')
  rw [demand_after_of_ne (UInt64.ne_of_lt hlt)]
  exact hc.sequence_eq m hlatest hm

/-- At the first reading of a millisecond the counter begins with zero again. -/
theorem after_of_first (hnow : now ≤ Flake.maxTimestamp) (hbefore : ∀ b ∈ h.marks, b < now) :
    (⟨some now, 0⟩ : Counter).Summarises (h.after now) := by
  have hafter := latest?_after_of_latest hnow fun b hb => UInt64.le_of_lt (hbefore b hb)
  refine ⟨hafter.symm, fun m hlatest _ => ?_⟩
  obtain rfl : now = m := Option.some.inj (hafter.symm.trans hlatest)
  have hmem : now ∉ h.marks := fun hmem => UInt64.lt_irrefl now (hbefore now hmem)
  rw [demand_after_self, demand_eq_zero hnow hmem]
  rfl

theorem after_of_again (hnow : now ≤ Flake.maxTimestamp) (hlatest : h.latest? = some now)
    {n : UInt16} (hn : n.toNat + 1 = min (h.demand now + 1) 4096) :
    (⟨some now, n⟩ : Counter).Summarises (h.after now) := by
  have hafter := latest?_after_of_le hnow hlatest (UInt64.le_refl now)
  refine ⟨hafter.symm, fun m hlatest' _ => ?_⟩
  obtain rfl : now = m := Option.some.inj (hafter.symm.trans hlatest')
  rw [demand_after_self]
  exact hn

end Summarises

end Counter

namespace Generator

open History

section Step

variable (config : Config) {c : Counter} {h : History} (hc : c.Summarises h) {now m : UInt64}
  (hnow : now ≤ Flake.maxTimestamp)

include hc hnow

theorem poll_of_first (hbefore : ∀ b ∈ h.marks, b < now) :
    (resume config c).poll now = (h.answer config now, resume config ⟨some now, 0⟩) := by
  have hnext : c.next now = (.ok 0, ⟨some now, 0⟩) := by
    cases hlast : c.last with
    | none => exact Counter.next_of_last_eq_none hlast
    | some last =>
        have hmem : last ∈ h.marks :=
          (latest?_eq_some_iff.mp (hc.last_eq.symm.trans hlast)).1
        exact Counter.next_of_last_lt hlast (hbefore last hmem)
  rw [poll_of_next_ok hnow hnext, answer_of_first config hnow hbefore]
  rfl

theorem poll_of_again (hlatest : h.latest? = some now) :
    ∃ n : UInt16, (resume config c).poll now = (h.answer config now, resume config ⟨some now, n⟩) ∧
      n.toNat + 1 = min (h.demand now + 1) 4096 := by
  have hlast : c.last = some now := hc.last_eq.trans hlatest
  have hmax := Flake.toNat_maxSequence
  have hsequence := hc.sequence_eq now hlatest hnow
  rw [answer_of_again config hnow hlatest]
  by_cases hless : c.sequence < Flake.maxSequence
  · have hnumber := Counter.toNat_sequence_add_one hless
    rw [UInt16.lt_iff_toNat_lt] at hless
    have hdemand : h.demand now = (c.sequence + 1).toNat := by omega
    refine ⟨c.sequence + 1, ?_, by omega⟩
    rw [if_pos (by omega), hdemand, ready, UInt16.ofNat_toNat]
    exact poll_of_next_ok hnow
      (Counter.next_of_sequence_lt hlast (UInt16.lt_iff_toNat_lt.mpr hless))
  · have hfull := poll_of_exhausted (g := resume config c) hnow hlast hless
    rw [UInt16.lt_iff_toNat_lt] at hless
    refine ⟨c.sequence, ?_, by omega⟩
    rw [if_neg (by omega), hfull, ← hlast]

theorem poll_of_behind (hlatest : h.latest? = some m) (hlt : now < m) :
    (resume config c).poll now = (h.answer config now, resume config c) := by
  have hlast : c.last = some m := hc.last_eq.trans hlatest
  have hgap : m.toNat - now.toNat < 2 ^ 64 := Nat.lt_of_le_of_lt (Nat.sub_le _ _) m.toNat_lt
  have hskew : m.toNat - now.toNat ≤ (resume config c).maxSkew.toNat ↔
      m.toNat - now.toNat ≤ config.maxSkew.millis :=
    config.maxSkew.le_toNat_millisWord_iff hgap
  rw [poll_of_lt_last (g := resume config c) hnow hlast hlt, behind_of_lt hlt,
    answer_of_behind config hnow hlatest hlt]
  simp only [hskew]

end Step

theorem poll_of_summarises (config : Config) {c : Counter} {h : History} (hc : c.Summarises h)
    (now : UInt64) :
    ∃ c', (resume config c).poll now = (h.answer config now, resume config c') ∧
      c'.Summarises (h.after now) := by
  by_cases hover : Flake.maxTimestamp < now
  · refine ⟨c, ?_, hc.after_of_overflow hover⟩
    rw [poll_of_overflow hover, answer_of_overflow config hover]
  have hnow := UInt64.not_lt.mp hover
  rcases hlatest : h.latest? with _ | m
  · have hmarks : h.marks = [] := List.max?_eq_none_iff.mp hlatest
    have hbefore : ∀ b ∈ h.marks, b < now := by
      rw [hmarks]
      exact fun b hb => nomatch hb
    exact ⟨_, poll_of_first config hc hnow hbefore, .after_of_first hnow hbefore⟩
  rcases Nat.lt_trichotomy m.toNat now.toNat with hlt | heq | hlt
  · have hbefore : ∀ b ∈ h.marks, b < now := by
      intro b hb
      have hle := (latest?_eq_some_iff.mp hlatest).2 b hb
      rw [UInt64.le_iff_toNat_le] at hle
      exact UInt64.lt_iff_toNat_lt.mpr (Nat.lt_of_le_of_lt hle hlt)
    exact ⟨_, poll_of_first config hc hnow hbefore, .after_of_first hnow hbefore⟩
  · obtain rfl : m = now := UInt64.toNat_inj.mp heq
    obtain ⟨n, hpoll, hn⟩ := poll_of_again config hc hnow hlatest
    exact ⟨_, hpoll, .after_of_again hnow hlatest hn⟩
  · rw [← UInt64.lt_iff_toNat_lt] at hlt
    exact ⟨c, poll_of_behind config hc hnow hlatest hlt, hc.after_of_behind hnow hlatest hlt⟩

theorem afterPolls_summarises (config : Config) (start : Option Checkpoint)
    (readings : List UInt64) :
    ∃ c, (resume config (.start start)).afterPolls readings = resume config c ∧
      c.Summarises ⟨start, readings⟩ := by
  induction readings using List.reverseRecOn with
  | nil => exact ⟨_, rfl, Counter.summarises_start start⟩
  | append_singleton readings now ih =>
      obtain ⟨c, hafter, hc⟩ := ih
      obtain ⟨c', hpoll, hc'⟩ := poll_of_summarises config hc now
      refine ⟨c', ?_, hc'⟩
      simp only [afterPolls, List.foldl_append, List.foldl_cons, List.foldl_nil] at hafter ⊢
      rw [hafter, hpoll]

theorem poll_afterPolls (config : Config) (start : Option Checkpoint) (earlier : List UInt64)
    (now : UInt64) :
    (((resume config (.start start)).afterPolls earlier).poll now).1 =
        History.answer config ⟨start, earlier⟩ now ∧
      ∀ reordered, reordered.Perm earlier →
        (((resume config (.start start)).afterPolls reordered).poll now).1 =
          (((resume config (.start start)).afterPolls earlier).poll now).1 := by
  have hanswer (readings : List UInt64) :
      (((resume config (.start start)).afterPolls readings).poll now).1 =
        History.answer config ⟨start, readings⟩ now := by
    obtain ⟨c, hafter, hc⟩ := afterPolls_summarises config start readings
    obtain ⟨c', hpoll, -⟩ := poll_of_summarises config hc now
    rw [hafter, hpoll]
  refine ⟨hanswer earlier, fun reordered hperm => ?_⟩
  rw [hanswer, hanswer, answer_eq_of_perm start hperm]

theorem poll_afterPolls_in_last_free_place :
    let g := resume .default (.start (some ⟨7, 4093⟩))
    ((g.afterPolls [7, 4398046511104, 3]).poll 7).1 =
        .ok (.ready (.pack 7 .zero .zero 4095)) ∧
      ((g.afterPolls [3, 7, 4398046511104]).poll 7).1 =
        ((g.afterPolls [7, 4398046511104, 3]).poll 7).1 ∧
      ((g.afterPolls [7, 7, 7]).poll 7).1 = .ok (.pending 8) ∧
      ((g.afterPolls [7, 9]).poll 3).1 = .error (.clockRegression 9 3) := by
  have h := poll_afterPolls .default (some ⟨7, 4093⟩)
  exact ⟨(h [7, 4398046511104, 3] 7).1.trans (by decide),
    (h [7, 4398046511104, 3] 7).2 [3, 7, 4398046511104] (by decide),
    (h [7, 7, 7] 7).1.trans (by decide), (h [7, 9] 3).1.trans (by decide)⟩

end Generator

end Snowflake
