import Snowflake.CommandLine.Settings
import Snowflake.Proofs.Json.Config

/-!
The ways to configure a generator: a map, settings made one by one, or numbers from the command
line. All of them lead to the same configurations, except that the command line takes no wait of
zero, and no generator waits for less than a millisecond.
-/

namespace Snowflake

open Json Reader

namespace CommandLine.Settings

variable {s : Settings} {c : Config}

/-- The map of the same four numbers. -/
def members (s : Settings) : List Member :=
  [("worker_id", Decimal.digits s.worker.toNat), ("process_id", Decimal.digits s.process.toNat),
    ("max_clock_skew", Decimal.digits s.maxSkew.toNat),
    ("wait_timeout", Decimal.digits s.waitTimeout.toNat)]

/-- The settings one by one, for a slot of the same numbers. -/
def settings (s : Settings) (worker : WorkerId) (process : ProcessId) : List Config.Setting :=
  [.worker worker, .process process, .maxSkew s.maxSkew, .waitTimeout s.waitTimeout]

theorem nodup_settings (s : Settings) (worker : WorkerId) (process : ProcessId) :
    ((s.settings worker process).map Config.Setting.key).Nodup := by
  change ["worker_id", "process_id", "max_clock_skew", "wait_timeout"].Nodup
  decide

theorem default_withSettings (s : Settings) (worker : WorkerId) (process : ProcessId) :
    Config.default.withSettings (s.settings worker process) =
      ((Config.ofSlot worker process).withMaxSkew (.ofMillis s.maxSkew)).withWaitTimeout
        (.ofMillis s.waitTimeout) := by
  have hspans (skew wait : Span) :
      (((Config.default.withWorker worker).withProcess process).withMaxSkew skew).withWaitTimeout
        wait = ((Config.ofSlot worker process).withMaxSkew skew).withWaitTimeout wait := rfl
  exact hspans _ _

theorem toConfig_eq_ok_iff :
    s.toConfig = .ok c ↔
      ∃ worker process, s.worker.toNat = SlotId.toNat worker ∧
        s.process.toNat = SlotId.toNat process ∧ s.waitTimeout ≠ 0 ∧
        c = Config.default.withSettings (s.settings worker process) := by
  simp only [toConfig, bind_eq_ok_iff, mapError_eq_ok_iff, SlotId.ofWord_eq_ok_iff,
    default_withSettings]
  by_cases hwait : s.waitTimeout = 0
  · simp only [hwait, ne_eq, not_true_eq_false, if_true, throw_bind, throw_ne_ok, false_and,
      and_false, exists_false]
  · simp [hwait, eq_comm, pure, Except.pure]

theorem exists_toConfig_iff :
    (∃ c, s.toConfig = .ok c) ↔
      s.worker.toNat ≤ 31 ∧ s.process.toNat ≤ 31 ∧ 1 ≤ s.waitTimeout.toNat := by
  have hwait : s.waitTimeout ≠ 0 ↔ 1 ≤ s.waitTimeout.toNat := by
    rw [Nat.one_le_iff_ne_zero, ne_eq, ne_eq, ← UInt64.toNat_inj]
    rfl
  simp only [toConfig_eq_ok_iff, hwait]
  constructor
  · rintro ⟨c, worker, process, hworker, hprocess, hle, -⟩
    rw [hworker, hprocess]
    exact ⟨Nat.le_of_lt_succ worker.toNat_lt, Nat.le_of_lt_succ process.toNat_lt, hle⟩
  · rintro ⟨hworker, hprocess, hle⟩
    exact ⟨_, ⟨⟨_, Nat.lt_succ_of_le hworker⟩⟩, ⟨⟨_, Nat.lt_succ_of_le hprocess⟩⟩, rfl, rfl, hle,
      rfl⟩

section Map

variable {doc : String} {ms : List Member}

theorem ofJson_of_toConfig (hdoc : IsObject doc ms) (hms : ms.Perm s.members)
    (h : s.toConfig = .ok c) : Config.ofJson doc = .ok c := by
  obtain ⟨worker, process, hworker, hprocess, -, rfl⟩ := toConfig_eq_ok_iff.mp h
  have hmembers : s.members = (s.settings worker process).map Config.Setting.member := by
    rw [members, hworker, hprocess]
    rfl
  rw [hmembers] at hms
  exact (Config.ofJson_eq_ok_iff_perm hdoc).mpr ⟨_, hms, s.nodup_settings worker process, rfl⟩

/-- The command line and a map of the same numbers differ at a wait of zero only. -/
theorem toConfig_eq_ok_iff_ofJson (hdoc : IsObject doc ms) (hms : ms.Perm s.members) :
    s.toConfig = .ok c ↔ 1 ≤ s.waitTimeout.toNat ∧ Config.ofJson doc = .ok c := by
  constructor
  · intro h
    exact ⟨(exists_toConfig_iff.mp ⟨c, h⟩).2.2, ofJson_of_toConfig hdoc hms h⟩
  · rintro ⟨hwait, hjson⟩
    obtain ⟨-, hadmits⟩ := (Config.exists_ofJson_iff hdoc).mp ⟨c, hjson⟩
    have hworker : s.worker.toNat ≤ 31 := by
      apply Config.le_of_admits_slot (.inl rfl)
      exact hadmits _ (hms.mem_iff.mpr (.head _))
    have hprocess : s.process.toNat ≤ 31 := by
      apply Config.le_of_admits_slot (.inr rfl)
      exact hadmits _ (hms.mem_iff.mpr (.tail _ (.head _)))
    obtain ⟨c', hc'⟩ := exists_toConfig_iff.mpr ⟨hworker, hprocess, hwait⟩
    have heq : c' = c := Except.ok.inj ((ofJson_of_toConfig hdoc hms hc').symm.trans hjson)
    rw [hc', heq]

end Map

end CommandLine.Settings

section Wait

variable {c : Config} (counter : Counter)

theorem Config.clampWait_clampWait (wait : Span) : clampWait (clampWait wait) = clampWait wait :=
  if_neg (Nat.not_lt.mpr (minWaitTimeout_le_clampWait wait))

theorem Generator.waitTimeout_resume_withWaitTimeout (c : Config) (wait : Span) :
    (resume (c.withWaitTimeout wait) counter).waitTimeout = max wait (.ofMillis 1) := by
  rw [← Config.minWaitTimeout, ← Config.clampWait_eq_max, ← Config.clampWait_clampWait]
  rfl

theorem Generator.waitTimeout_resume_ofJson {doc : String} {ms : List Member} {wait : UInt64}
    (hdoc : IsObject doc ms) (hmem : ("wait_timeout", Decimal.digits wait.toNat) ∈ ms)
    (h : Config.ofJson doc = .ok c) :
    (resume c counter).waitTimeout = max (.ofMillis wait) (.ofMillis 1) := by
  obtain ⟨settings, rfl, hnodup, rfl⟩ := (Config.ofJson_eq_ok_iff hdoc).mp h
  have hs : Config.Setting.waitTimeout wait ∈ settings :=
    (List.mem_map_of_injective Config.Setting.member_injective).mp hmem
  rw [← Config.apply_withSettings hs hnodup]
  exact waitTimeout_resume_withWaitTimeout counter _ _

theorem Generator.waitTimeout_resume_toConfig {s : CommandLine.Settings} (h : s.toConfig = .ok c) :
    (resume c counter).waitTimeout = max (.ofMillis s.waitTimeout) (.ofMillis 1) := by
  obtain ⟨worker, process, -, -, -, rfl⟩ := CommandLine.Settings.toConfig_eq_ok_iff.mp h
  rw [s.default_withSettings, waitTimeout_resume_withWaitTimeout]

end Wait

/-- A map makes the configuration that its members make as settings one by one, whatever their
order, and the command line makes that of a map with its numbers. A generator waits for a
millisecond at least, wherever its configuration comes from. -/
theorem configurations_agree :
    (∀ doc ms, IsObject doc ms →
      ((∃ c, Config.ofJson doc = .ok c) ↔ (ms.map Prod.fst).Nodup ∧ ∀ m ∈ ms, Config.Admits m) ∧
      (∀ c, Config.ofJson doc = .ok c ↔
        ∃ settings : List Config.Setting, ms.Perm (settings.map Config.Setting.member) ∧
          (settings.map Config.Setting.key).Nodup ∧ c = Config.default.withSettings settings) ∧
      (¬ (ms.map Prod.fst).Nodup ∨
          (∃ m ∈ ms, m.1 ∉ ["worker_id", "process_id", "max_clock_skew", "wait_timeout"]) →
        ∃ e, Config.ofJson doc = .error e)) ∧
    (∀ s : CommandLine.Settings,
      ((∃ c, s.toConfig = .ok c) ↔
        s.worker.toNat ≤ 31 ∧ s.process.toNat ≤ 31 ∧ 1 ≤ s.waitTimeout.toNat) ∧
      ∀ doc ms, IsObject doc ms → ms.Perm s.members → ∀ c,
        (s.toConfig = .ok c ↔ 1 ≤ s.waitTimeout.toNat ∧ Config.ofJson doc = .ok c)) ∧
    (∀ counter : Counter,
      (∀ c, (Generator.resume c counter).waitTimeout = max c.waitTimeout (.ofMillis 1)) ∧
      (∀ c wait, (Generator.resume (Config.withWaitTimeout wait c) counter).waitTimeout =
        max wait (.ofMillis 1)) ∧
      (∀ doc ms c (wait : UInt64), IsObject doc ms →
        ("wait_timeout", Decimal.digits wait.toNat) ∈ ms → Config.ofJson doc = .ok c →
        (Generator.resume c counter).waitTimeout = max (.ofMillis wait) (.ofMillis 1)) ∧
      ∀ (s : CommandLine.Settings) c, s.toConfig = .ok c →
        (Generator.resume c counter).waitTimeout = max (.ofMillis s.waitTimeout) (.ofMillis 1)) ∧
    ∀ wait, Config.clampWait (Config.clampWait wait) = Config.clampWait wait := by
  refine ⟨fun doc ms hdoc => ⟨?_, fun c => ?_, ?_⟩, fun s => ⟨?_, fun doc ms hdoc hms c => ?_⟩,
    fun counter => ⟨fun c => ?_, fun c wait => ?_, fun doc ms c wait hdoc hmem h => ?_,
      fun s c h => ?_⟩, fun wait => ?_⟩
  · exact Config.exists_ofJson_iff hdoc
  · exact Config.ofJson_eq_ok_iff_perm hdoc
  · exact Config.exists_ofJson_eq_error hdoc
  · exact CommandLine.Settings.exists_toConfig_iff
  · exact CommandLine.Settings.toConfig_eq_ok_iff_ofJson hdoc hms
  · exact Generator.waitTimeout_resume counter c
  · exact Generator.waitTimeout_resume_withWaitTimeout counter c wait
  · exact Generator.waitTimeout_resume_ofJson counter hdoc hmem h
  · exact Generator.waitTimeout_resume_toConfig counter h
  · exact Config.clampWait_clampWait wait

theorem configurations_agree_reversed :
    let s : CommandLine.Settings := ⟨31, 4, 0, 20⟩
    let c : Config := ⟨⟨31⟩, ⟨4⟩, .ofMillis 0, .ofMillis 20⟩
    let doc := String.ofList (Object.line s.members.reverse)
    let repeated := String.ofList (Object.line [("worker_id", ['3']), ("worker_id", ['3'])])
    s.toConfig = .ok c ∧ Config.ofJson doc = .ok c ∧ (∃ e, Config.ofJson repeated = .error e) ∧
      (Generator.resume c .new).waitTimeout = max (.ofMillis 20) (.ofMillis 1) := by
  intro s c doc repeated
  have hdoc : IsObject doc s.members.reverse := by
    apply isObject_line
    intro m hm
    simp only [CommandLine.Settings.members, List.mem_reverse, List.mem_cons, List.not_mem_nil,
      or_false] at hm
    rcases hm with rfl | rfl | rfl | rfl <;> exact isValue_digits _
  have hrepeated : IsObject repeated [("worker_id", ['3']), ("worker_id", ['3'])] := by
    apply isObject_line
    intro m hm
    obtain rfl : m = ("worker_id", ['3']) := by simpa using hm
    exact isValue_digits 3
  obtain ⟨hmaps, hsettings, hwaits, -⟩ := configurations_agree
  have hconfig : s.toConfig = .ok c := by decide
  have hjson : Config.ofJson doc = .ok c :=
    ((hsettings s).2 doc _ hdoc (List.reverse_perm _) c).mp hconfig |>.2
  refine ⟨hconfig, hjson, (hmaps repeated _ hrepeated).2.2 (.inl (by decide)), ?_⟩
  exact (hwaits .new).2.2.1 doc _ c 20 hdoc (.head _) hjson

end Snowflake
