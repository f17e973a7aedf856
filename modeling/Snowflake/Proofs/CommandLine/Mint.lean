import Snowflake.CommandLine.Run
import Snowflake.Proofs.Generator.Series
import Snowflake.Proofs.Id.Text

/-!
Minting on the command line. What is printed is one line for each flake that the generator hands
out, in the order in which it does, and no line is missing, also if a call fails in the end.
-/

namespace Snowflake

theorem TaggedId.newline_not_mem_text (t : TaggedId) : '\n' ∉ t.text.toList := by
  obtain ⟨ds, htext, hds⟩ := read_eq_ok_iff.mp (read_text t)
  have hkind : '\n' ∉ t.kind.name.toList := by
    cases t.kind <;> decide
  have hdigits : '\n' ∉ ds := hds.not_mem (by decide)
  rw [htext, List.mem_append, List.mem_cons]
  rintro (hmem | hmem | hmem)
  · exact hkind hmem
  · cases hmem
  · exact hdigits hmem

namespace CommandLine

/-- The text cut at the ends of its lines: it has these lines, and each of them has an end. -/
def IsLines (text : String) (lines : List String) : Prop :=
  text.toList.splitOn '\n' = lines.map String.toList ++ [[]]

instance (text : String) (lines : List String) : Decidable (IsLines text lines) :=
  inferInstanceAs (Decidable (_ = _))

theorem IsLines.unique {text : String} {lines lines' : List String} (h : IsLines text lines)
    (h' : IsLines text lines') : lines = lines' := by
  have hmap : lines.map String.toList = lines'.map String.toList :=
    List.append_cancel_right (h.symm.trans h')
  exact List.map_injective_iff.mpr (fun _ _ => String.toList_inj.mp) hmap

theorem isLines_join {lines : List String} (h : ∀ line ∈ lines, '\n' ∉ line.toList) :
    IsLines (String.join (lines.map (· ++ "\n"))) lines := by
  have htext : (String.join (lines.map (· ++ "\n"))).toList =
      List.intercalate ['\n'] (lines.map String.toList ++ [[]]) := by
    induction lines with
    | nil => simp
    | cons line lines ih =>
        have hrest := ih fun line' hline' => h line' (List.mem_cons_of_mem line hline')
        rw [List.map_cons, String.join_cons, String.toList_append, hrest]
        cases lines <;> simp [List.intercalate_cons_cons]
  rw [IsLines, htext]
  refine List.splitOn_intercalate '\n' ?_ (by simp)
  intro l hl
  rcases List.mem_append.mp hl with hl | hl
  · obtain ⟨line, hline, rfl⟩ := List.mem_map.mp hl
    exact h line hline
  · rw [List.mem_singleton.mp hl]
    exact List.not_mem_nil

/-- The lines of a series. -/
def mintedLines {kind : Kind} (s : Series kind) : List String :=
  s.made.map fun id => id.tagged.text

theorem isLines_ofSeries {kind : Kind} (s : Series kind) :
    IsLines (Report.ofSeries s).output (mintedLines s) := by
  have hlines : ∀ line ∈ mintedLines s, '\n' ∉ line.toList := by
    intro line hline
    obtain ⟨id, -, rfl⟩ := List.mem_map.mp hline
    exact id.tagged.newline_not_mem_text
  have hjoin := isLines_join hlines
  rwa [mintedLines, List.map_map] at hjoin

theorem forall₂_read_mintedLines {kind : Kind} (s : Series kind) :
    List.Forall₂ (fun line f => TaggedId.read line = .ok ⟨kind, f⟩) (mintedLines s)
      (s.made.map Id.flake) := by
  rw [mintedLines, List.forall₂_map_left_iff, List.forall₂_map_right_iff, List.forall₂_same]
  intro id _
  exact id.tagged.read_text

/-- Minting prints a faithful prefix of what it was asked for. Every line that it prints is read
back as a flake of the kind and of the slot, the flakes increase, and they are all that the polls of
the generator handed out. It prints as many lines as were asked for exactly if it does not fail, and
it ends, always in the same way, if in each of its calls a check finds the time up. -/
theorem mint_prints_all_issued (kind : Kind) (count : UInt64) (config : Config) (world : World) :
    (∀ limit report, (Command.mint kind count).run config world limit = some report →
      ∃ lines flakes, IsLines report.output lines ∧
        lines.length ≤ count.toNat ∧
        (report.failure = none ↔ lines.length = count.toNat) ∧
        List.Forall₂ (fun line f => TaggedId.read line = .ok ⟨kind, f⟩) lines flakes ∧
        (∀ f ∈ flakes, f.worker = config.worker ∧ f.process = config.process) ∧
        (flakes.Pairwise fun f f' => f.word < f'.word) ∧
        ∃ s, (Generator.new config).series kind count.toNat world.clock world.elapsed limit =
            some s ∧
          report.failure = s.failure.map .mint ∧
          (Generator.new config).Issues ((List.range s.polls).map world.clock) flakes
            s.generator) ∧
      ∀ limit,
        (∀ call < count.toNat, ∃ i < limit,
          max config.waitTimeout Config.minWaitTimeout ≤ world.elapsed call i) →
        ∃ report, ∀ limit' ≥ limit,
          (Command.mint kind count).run config world limit' = some report := by
  have hvalid : (Generator.new config).counter.Valid := Generator.valid_resume config none
  refine ⟨?_, ?_⟩
  · intro limit report hrun
    obtain ⟨s, hs, rfl⟩ := Option.map_eq_some_iff.mp hrun
    have hmakes := Generator.makes_of_seriesFrom hs
    have hissues := hmakes.issues
    simp only [Nat.zero_add] at hissues
    have hlength : (mintedLines s).length = s.made.length := List.length_map _
    refine ⟨mintedLines s, s.made.map Id.flake, isLines_ofSeries s, ?_, ?_,
      forall₂_read_mintedLines s, ?_, ?_, s, hs, rfl, hissues⟩
    · rw [hlength]
      exact hmakes.length_le
    · rw [hlength, ← hmakes.failure_eq_none_iff]
      exact Option.map_eq_none_iff
    · intro f hf
      rw [← hissues.polled_eq] at hf
      have hfuture := Generator.future_of_mem_polled hvalid _ hf
      exact ⟨hfuture.worker_eq, hfuture.process_eq⟩
    · rw [← hissues.polled_eq]
      exact Generator.pairwise_polled hvalid _
  · intro limit hup
    have htimeout : (Generator.new config).waitTimeout =
        max config.waitTimeout Config.minWaitTimeout := Generator.waitTimeout_resume .new config
    have hends : ∀ i < count.toNat, ∃ j < limit,
        (Generator.new config).waitTimeout ≤ world.elapsed (0 + i) j := by
      intro i hi
      rw [htimeout, Nat.zero_add]
      exact hup i hi
    obtain ⟨s, hs⟩ : ∃ s, Generator.Makes kind world.clock world.elapsed limit count.toNat 0 0
        (Generator.new config) s := Generator.exists_makes hends 0
    refine ⟨.ofSeries s, ?_⟩
    intro limit' hle
    exact Option.map_eq_some_iff.mpr ⟨s, (hs.of_le hle).seriesFrom_eq, rfl⟩

/-- Two posts, the second one after a wait, and then the clock falls back too far for a third. -/
theorem mint_prints_all_issued_until_clock_falls_back :
    let world : World :=
      ⟨fun i => [6, 4, 6].getD i 0, fun _ i => .ofMillis (1000 * .ofNat i),
        ⟨0, 0, by decide, by decide, by decide⟩, fun _ => 0⟩
    let report : Report :=
      ⟨"post:25165824\npost:25165825\n", some (.mint (.clockRegression 6 0))⟩
    (∀ call < 3, ∃ i < 2,
        max Config.default.waitTimeout Config.minWaitTimeout ≤ world.elapsed call i) ∧
      (∀ limit ≥ 2, (Command.mint .post 3).run .default world limit = some report) ∧
      List.Forall₂ (fun line f => TaggedId.read line = .ok ⟨.post, f⟩)
        ["post:25165824", "post:25165825"] ((Generator.new .default).polled [6, 4, 6, 0]) := by
  intro world report
  obtain ⟨hreport, hends⟩ := mint_prints_all_issued .post 3 .default world
  have hsecond : max Config.default.waitTimeout Config.minWaitTimeout ≤
      .ofMillis (1000 * .ofNat 1) := by decide
  have hup : ∀ call < 3, ∃ i < 2,
      max Config.default.waitTimeout Config.minWaitTimeout ≤ world.elapsed call i :=
    fun _ _ => ⟨1, by decide, hsecond⟩
  have hrun : (Command.mint .post 3).run .default world 2 = some report := by decide
  have hseries : (Generator.new .default).series .post 3 world.clock world.elapsed 2 =
      some ⟨[⟨⟨25165824⟩⟩, ⟨⟨25165825⟩⟩], some (.clockRegression 6 0), 4,
        .resume .default ⟨some 6, 1⟩⟩ := by
    dsimp only [world]
    rfl
  refine ⟨hup, ?_, ?_⟩
  · obtain ⟨report', hreport'⟩ := hends 2 hup
    obtain rfl := Option.some_inj.mp (hrun.symm.trans (hreport' 2 (Nat.le_refl 2)))
    exact hreport'
  · obtain ⟨lines, flakes, hlines, -, -, hread, -, -, s, hs, -, hissues⟩ := hreport 2 report hrun
    obtain rfl := Option.some_inj.mp (hseries.symm.trans hs)
    have hcut : IsLines report.output ["post:25165824", "post:25165825"] := by decide
    rw [hlines.unique hcut, ← hissues.polled_eq] at hread
    exact hread

end CommandLine

end Snowflake
