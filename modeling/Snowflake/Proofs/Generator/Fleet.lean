import Snowflake.Proofs.Generator.Poll

/-!
Generators of different slots side by side. Their polls may be interleaved in any way and their
clocks may have nothing in common: no flake is handed out twice, and each names the generator that
made it.
-/

namespace Snowflake.Generator

variable {ι : Type} [DecidableEq ι]

/-- The flakes that polls of several generators hand out, in their order, each with its generator.
A poll is of one generator at one reading of its clock. -/
def fleetPolled : (ι → Generator) → List (ι × UInt64) → List (ι × Flake)
  | _, [] => []
  | fleet, (i, now) :: schedule =>
      (flake? ((fleet i).poll now).1).toList.map (i, ·) ++
        fleetPolled (Function.update fleet i ((fleet i).poll now).2) schedule

section Fleet

variable {fleet : ι → Generator} (hfleet : ∀ i, (fleet i).counter.Valid) (i : ι) (now : UInt64)
  (schedule : List (ι × UInt64))

include hfleet

theorem fleet_advances (j : ι) :
    (Function.update fleet i ((fleet i).poll now).2 j).counter.Valid ∧
      (fleet j).Precedes (Function.update fleet i ((fleet i).poll now).2 j) := by
  by_cases h : j = i
  · subst h
    obtain ⟨hvalid, hprecedes, -⟩ := poll_advances (hfleet j) now
    rw [Function.update_self]
    exact ⟨hvalid, hprecedes⟩
  · rw [Function.update_of_ne h]
    exact ⟨hfleet j, .refl _⟩

theorem future_of_mem_fleetPolled {e : ι × Flake} (he : e ∈ fleetPolled fleet schedule) :
    (fleet e.1).Future e.2 := by
  induction schedule generalizing fleet with
  | nil => exact nomatch he
  | cons event schedule ih =>
      obtain ⟨i, now⟩ := event
      rcases List.mem_append.mp he with he | he
      · obtain ⟨f, hf, rfl⟩ := List.mem_map.mp he
        exact ((poll_advances (hfleet i) now).2.2 f (Option.mem_toList.mp hf)).1
      · have hadvances := fleet_advances hfleet i now
        exact (hadvances e.1).2.future (ih (fun j => (hadvances j).1) he)

theorem pairwise_fleetPolled :
    (fleetPolled fleet schedule).Pairwise fun e e' => e.1 = e'.1 → e.2.word < e'.2.word := by
  induction schedule generalizing fleet with
  | nil => exact List.Pairwise.nil
  | cons event schedule ih =>
      obtain ⟨i, now⟩ := event
      have hvalid := fun j => (fleet_advances hfleet i now j).1
      refine List.pairwise_append.mpr ⟨?_, ih hvalid, ?_⟩
      · cases flake? ((fleet i).poll now).1 with
        | none => exact List.Pairwise.nil
        | some f => exact List.pairwise_singleton _ (i, f)
      · rintro e he ⟨j, f'⟩ he' rfl
        obtain ⟨f, hf, rfl⟩ := List.mem_map.mp he
        have hpast := ((poll_advances (hfleet i) now).2.2 f (Option.mem_toList.mp hf)).2
        have hfuture := future_of_mem_fleetPolled hvalid schedule he'
        rw [Function.update_self] at hfuture
        exact hpast.word_lt hfuture

end Fleet

theorem fleetPolled_unique (config : ι → Config) (start : ι → Option Checkpoint)
    (hslots : Function.Injective fun i => ((config i).worker, (config i).process))
    (schedule : List (ι × UInt64)) :
    ((fleetPolled (fun i => resume (config i) (.start (start i))) schedule).map
        fun e => e.2.word).Nodup ∧
      ∀ e ∈ fleetPolled (fun i => resume (config i) (.start (start i))) schedule,
        e.2.worker = (config e.1).worker ∧ e.2.process = (config e.1).process := by
  have hfleet := fun i => valid_resume (config i) (start i)
  have hslot : ∀ e ∈ fleetPolled (fun i => resume (config i) (.start (start i))) schedule,
      e.2.worker = (config e.1).worker ∧ e.2.process = (config e.1).process := by
    intro e he
    have hfuture := future_of_mem_fleetPolled hfleet schedule he
    exact ⟨hfuture.worker_eq, hfuture.process_eq⟩
  refine ⟨List.pairwise_map.mpr ?_, hslot⟩
  refine (pairwise_fleetPolled hfleet schedule).imp_of_mem fun {e e'} he he' hlt heq => ?_
  by_cases hsame : e.1 = e'.1
  · have hless := UInt64.lt_iff_toNat_lt.mp (hlt hsame)
    rw [heq] at hless
    exact Nat.lt_irrefl _ hless
  -- One flake names one slot, and no two generators share a slot.
  · have hflake : e.2 = e'.2 := congrArg Flake.mk heq
    obtain ⟨hworker, hprocess⟩ := hslot e he
    obtain ⟨hworker', hprocess'⟩ := hslot e' he'
    rw [hflake] at hworker hprocess
    apply hsame
    apply hslots
    exact Prod.ext (hworker.symm.trans hworker') (hprocess.symm.trans hprocess')

theorem fleetPolled_unique_at_one_reading :
    let config (i : Fin 3) : Config :=
      match i with
      | 0 => .default
      | 1 => .ofSlot ⟨1⟩ .zero
      | 2 => .ofSlot .zero ⟨1⟩
    let start (i : Fin 3) : Option Checkpoint := if i = 0 then some ⟨7, 4094⟩ else none
    let fleet (i : Fin 3) := resume (config i) (.start (start i))
    let schedule := [(0, 7), (1, 7), (2, 7), (0, 7), (1, 7), (2, 3), (0, 8)]
    (Function.Injective fun i => ((config i).worker, (config i).process)) ∧
      fleetPolled fleet schedule =
        [(0, .pack 7 .zero .zero 4095), (1, .pack 7 ⟨1⟩ .zero 0), (2, .pack 7 .zero ⟨1⟩ 0),
          (1, .pack 7 ⟨1⟩ .zero 1), (0, .pack 8 .zero .zero 0)] ∧
      ((fleetPolled fleet schedule).map fun e => e.2.word).Nodup := by
  intro config start fleet schedule
  have hslots : Function.Injective fun i => ((config i).worker, (config i).process) := by
    change ∀ i j, _ → _
    decide
  exact ⟨hslots, by decide, (fleetPolled_unique config start hslots schedule).1⟩

end Snowflake.Generator
