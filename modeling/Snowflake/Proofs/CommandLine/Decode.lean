import Snowflake.CommandLine.Run
import Snowflake.Proofs.Flake.Packing
import Snowflake.Proofs.Id.Text
import Snowflake.Proofs.Json.Object
import Snowflake.Proofs.Time.Clock
import Snowflake.Proofs.Time.Timestamp

/-!
Decoding on the command line. A text is taken exactly if it is a numeral of 64 bits, with a kind in
front or without, and then one object is printed, from which the identifier can be put together
again. For any other text nothing is printed.
-/

namespace Snowflake

open Json

theorem Flake.exists_createdAt?_year2025 (f : Flake) :
    ∃ c, f.createdAt? Epoch.year2025 = some c ∧ c.IsRegular ∧
      c.unixNanos = (Epoch.year2025.millis + f.timestamp.toNat : Nat) * 1000000 := by
  have htimestamp := f.timestamp_le_maxTimestamp
  rw [UInt64.le_iff_toNat_le, toNat_maxTimestamp] at htimestamp
  have hepoch : Epoch.year2025.millis = 1735689600000 := by decide
  obtain ⟨c, hcreated⟩ : ∃ c, f.createdAt? Epoch.year2025 = some c :=
    exists_createdAt?_iff.mpr (by simp only [Instant.endNanos]; omega)
  exact ⟨c, hcreated, createdAt?_eq_some_iff.mp hcreated⟩

namespace CommandLine

namespace LooseId

/-- What stands in front of the number. -/
def lead (id : LooseId) : List Char :=
  match id.kind with
  | none => []
  | some kind => kind.name.toList ++ [':']

/-- The text is a numeral of 64 bits, with its kind in front or without. -/
def IsWritten (id : LooseId) (s : String) : Prop :=
  ∃ ds, s.toList = id.lead ++ ds ∧ Decimal.IsNumeral ds id.flake.toNat

/-- The identifier in the fewest digits. -/
def text (id : LooseId) : String :=
  String.ofList (id.lead ++ Decimal.digits id.flake.toNat)

theorem isWritten_text (id : LooseId) : id.IsWritten id.text :=
  ⟨_, String.toList_ofList, Decimal.value?_eq_some_iff.mp (Decimal.value?_digits _)⟩

theorem colon_mem_iff {id : LooseId} {s : String} (h : id.IsWritten s) :
    ':' ∈ s.toList ↔ id.kind ≠ none := by
  obtain ⟨ds, hs, hds⟩ := h
  have hdigits : ':' ∉ ds := hds.not_mem (by decide)
  obtain ⟨kind, flake⟩ := id
  rw [hs]
  cases kind <;> simp [lead, hdigits]

theorem read_eq_ok_iff {s : String} {id : LooseId} : read s = .ok id ↔ id.IsWritten s := by
  obtain ⟨kind, flake⟩ := id
  rw [read]
  by_cases hcolon : ':' ∈ s.toList
  · rw [if_pos hcolon, Reader.map_eq_ok_iff]
    constructor
    · rintro ⟨t, ht, heq⟩
      cases heq
      obtain ⟨ds, hs, hds⟩ := TaggedId.read_eq_ok_iff.mp ht
      exact ⟨ds, by simpa [lead] using hs, hds⟩
    · intro h
      obtain ⟨k, rfl⟩ := Option.ne_none_iff_exists'.mp ((colon_mem_iff h).mp hcolon)
      obtain ⟨ds, hs, hds⟩ := h
      exact ⟨⟨k, flake⟩, TaggedId.read_eq_ok_iff.mpr ⟨ds, by simpa [lead] using hs, hds⟩, rfl⟩
  · rw [if_neg hcolon]
    constructor
    · intro h
      split at h
      · rename_i f hf
        cases h
        exact ⟨s.toList, rfl, Flake.read_eq_ok_iff.mp hf⟩
      · cases h
    · intro h
      obtain rfl : kind = none := not_not.mp fun hkind => hcolon ((colon_mem_iff h).mpr hkind)
      obtain ⟨ds, hs, hds⟩ := h
      obtain rfl : s.toList = ds := hs
      rw [Flake.read_eq_ok_iff.mpr hds]

/-- What there is to tell of an identifier that was made at `created`: its kind if it has one, and
its number as a text and in its fields. -/
def entries (id : LooseId) (created : Instant) : List (String × Head) :=
  (id.kind.toList.map fun kind => ("kind", .text kind.name)) ++
    [("id", .text (Decimal.text id.flake.toNat)),
      ("timestamp", .number (.integer id.flake.timestamp.toNat)),
      ("worker_id", .number (.integer id.flake.worker.toNat)),
      ("process_id", .number (.integer id.flake.process.toNat)),
      ("sequence", .number (.integer id.flake.sequence.toNat)),
      ("created_at", .text (Timestamp.text created))]

/-- The output is one object and the end of its line. The object tells the identifier and the
instant so many milliseconds after the epoch as its timestamp says. -/
def IsShown (id : LooseId) (output : String) : Prop :=
  ∃ object created, output = String.ofList (object ++ ['\n']) ∧
    Tells object (id.entries created) ∧
    Timestamp.read (Timestamp.text created).toList = .ok created ∧ created.IsRegular ∧
    created.unixNanos = (Epoch.year2025.millis + id.flake.timestamp.toNat : Nat) * 1000000

theorem isShown_showFields (id : LooseId) : id.IsShown (showFields id) := by
  obtain ⟨created, hcreated, hregular, hnanos⟩ := id.flake.exists_createdAt?_year2025
  have hworker := id.flake.worker.toNat_lt
  have hprocess := id.flake.process.toNat_lt
  have hsequence := id.flake.sequence.toNat_lt
  have htold : Timestamp.read (Timestamp.text created).toList = .ok created := by
    rw [Timestamp.text, String.toList_ofList]
    exact Timestamp.read_write (.inl hregular)
  refine ⟨_, created, by rw [showFields, hcreated], tells_block ?_, htold, hregular, hnanos⟩
  refine List.rel_append ?_ ?_
  · cases id.kind with
    | none => exact .nil
    | some kind => exact .cons (Member.tells_write "kind" kind.name) .nil
  · exact .cons (Member.tells_write "id" _) <|
      .cons (Member.tells_digits "timestamp" id.flake.timestamp.toNat_lt) <|
      .cons (Member.tells_digits "worker_id" (by omega)) <|
      .cons (Member.tells_digits "process_id" (by omega)) <|
      .cons (Member.tells_digits "sequence" (by omega)) <|
      .cons (Member.tells_write "created_at" _) .nil

end LooseId

section Run

variable (config : Config) (world : World) (limit : Nat) {input : String} {id : LooseId}

theorem run_decode_of_isWritten (h : id.IsWritten input) :
    (Command.decode input).run config world limit = some (.success (showFields id)) := by
  rw [Command.run, decode, LooseId.read_eq_ok_iff.mpr h]
  rfl

theorem run_decode_of_forall_not (h : ∀ id : LooseId, ¬ id.IsWritten input) :
    ∃ e, (Command.decode input).run config world limit = some ⟨"", some e⟩ := by
  rcases hread : LooseId.read input with e | id
  · refine ⟨.invalidId e, ?_⟩
    rw [Command.run, decode, hread]
    rfl
  · exact absurd (LooseId.read_eq_ok_iff.mp hread) (h id)

end Run

/-- Decoding is faithful and prints all or nothing. What is printed for an identifier shows its
number in full, fields and instant included, and the same is printed for it in its shortest form. -/
theorem decode_shows_identifier (config : Config) (world : World) (limit : Nat) (input : String) :
    ∃ report, (Command.decode input).run config world limit = some report ∧
      (report.failure = none ↔ ∃ id : LooseId, id.IsWritten input) ∧
      (report.failure ≠ none → report.output = "") ∧
      ∀ id : LooseId, id.IsWritten input →
        id.IsShown report.output ∧ id.flake.fields.pack = id.flake ∧
          (Command.decode id.text).run config world limit = some report := by
  by_cases hwritten : ∃ id : LooseId, id.IsWritten input
  · obtain ⟨id, hid⟩ := hwritten
    refine ⟨.success (showFields id), run_decode_of_isWritten config world limit hid,
      iff_of_true rfl ⟨id, hid⟩, fun hfailure => absurd rfl hfailure, ?_⟩
    intro id' hid'
    obtain rfl : id' = id := by
      have hread := LooseId.read_eq_ok_iff.mpr hid'
      rw [LooseId.read_eq_ok_iff.mpr hid] at hread
      exact (Except.ok.inj hread).symm
    exact ⟨id'.isShown_showFields, id'.flake.pack_fields,
      run_decode_of_isWritten config world limit id'.isWritten_text⟩
  · rw [not_exists] at hwritten
    obtain ⟨e, hrun⟩ := run_decode_of_forall_not config world limit hwritten
    exact ⟨_, hrun, iff_of_false (by rintro ⟨⟩) (not_exists.mpr hwritten), fun _ => rfl,
      fun id hid => absurd hid (hwritten id)⟩

/-- Zeros in front of the number are not printed. -/
theorem decode_shows_identifier_post_forty_two :
    let world : World :=
      ⟨fun _ => 0, fun _ _ => .zero, ⟨0, 0, by decide, by decide, by decide⟩, fun _ => 0⟩
    let id : LooseId := ⟨some .post, ⟨42⟩⟩
    id.IsWritten "post:00042" ∧
      ∃ report, (Command.decode "post:00042").run .default world 0 = some report ∧
        report.failure = none ∧ id.IsShown report.output ∧
        (Command.decode "post:42").run .default world 0 = some report := by
  intro world id
  have hwritten : id.IsWritten "post:00042" :=
    ⟨"00042".toList, by decide, by decide, by decide, by decide⟩
  have htext : id.text = "post:42" := by decide
  obtain ⟨report, hrun, hfailure, -, hid⟩ :=
    decode_shows_identifier .default world 0 "post:00042"
  obtain ⟨hshown, -, hagain⟩ := hid id hwritten
  rw [htext] at hagain
  exact ⟨hwritten, report, hrun, hfailure.mpr ⟨id, hwritten⟩, hshown, hagain⟩

end CommandLine

end Snowflake
