import Snowflake.Json.Scalar
import Snowflake.Proofs.Json.Head

/-!
Whole documents that hold one scalar, with blanks around it.
-/

namespace Snowflake.Json

open Reader

/-- The document `doc` is `value` with blanks around it. -/
def Holds (doc : String) (value : List Char) : Prop :=
  ∃ before after, doc.toList = before ++ (value ++ after) ∧ before.all isBlank = true ∧
    after.all isBlank = true

/-- The document `doc` is a text literal with the content `s`, and blanks around it. -/
def IsText (doc s : String) : Prop :=
  ∃ before body after, doc.toList = before ++ '"' :: (body ++ '"' :: after) ∧
    before.all isBlank = true ∧ after.all isBlank = true ∧ Literal.Spells body s.toList

theorem holds_ofList (value : List Char) : Holds (String.ofList value) value :=
  ⟨[], [], by simp, rfl, rfl⟩

theorem isText_iff {doc s : String} :
    IsText doc s ↔ ∃ body, Holds doc ('"' :: (body ++ ['"'])) ∧ Literal.Spells body s.toList := by
  constructor
  · rintro ⟨before, body, after, hdoc, hbefore, hafter, hspells⟩
    exact ⟨body, ⟨before, after, by rw [hdoc]; simp, hbefore, hafter⟩, hspells⟩
  · rintro ⟨body, ⟨before, after, hdoc, hbefore, hafter⟩, hspells⟩
    exact ⟨before, body, after, by rw [hdoc]; simp, hbefore, hafter, hspells⟩

theorem skipBlanks_eq_nil_iff {cs : List Char} : skipBlanks cs = [] ↔ cs.all isBlank = true := by
  rw [skipBlanks, List.dropWhile_eq_nil_iff, List.all_eq_true]

theorem skipBlanks_append {before : List Char} (h : before.all isBlank = true) (rest : List Char) :
    skipBlanks (before ++ rest) = skipBlanks rest :=
  List.dropWhile_append_of_pos (List.all_eq_true.mp h)

theorem exists_eq_append_skipBlanks (cs : List Char) :
    ∃ before, before.all isBlank = true ∧ cs = before ++ skipBlanks cs :=
  ⟨cs.takeWhile isBlank, List.all_takeWhile, List.takeWhile_append_dropWhile.symm⟩

/-- Blanks end a numeral. -/
theorem ends_append_of_isBlank {before rest : List Char} (hbefore : before.all isBlank = true)
    (hrest : Numeral.Ends rest) : Numeral.Ends (before ++ rest) := by
  cases before with
  | nil => exact hrest
  | cons b before =>
      intro c hc
      obtain rfl : b = c := by simpa using hc
      rw [List.all_cons, Bool.and_eq_true] at hbefore
      simp only [isBlank, Bool.or_eq_true, beq_iff_eq] at hbefore
      obtain ⟨((rfl | rfl) | rfl) | rfl, -⟩ := hbefore
      all_goals decide

theorem ends_of_isBlank {after : List Char} (h : after.all isBlank = true) :
    Numeral.Ends after := by
  simpa using ends_append_of_isBlank h Numeral.ends_nil

namespace Head

theorem read?_append {before : List Char} (h : before.all isBlank = true) (cs : List Char) :
    read? (before ++ cs) = read? cs := by
  simp only [read?, skipBlanks_append h]

/-- A head that is read is a text literal, a numeral that stands for a number, or neither of these. -/
theorem read?_cases {cs rest : List Char} {head : Head} (h : read? cs = some (head, rest)) :
    (∃ s before body, head = text s ∧ cs = before ++ '"' :: (body ++ '"' :: rest) ∧
      before.all isBlank = true ∧ Literal.Spells body s.toList) ∨
    (∃ n before ds x, head = number n ∧ cs = before ++ (ds ++ rest) ∧
      before.all isBlank = true ∧ Numeral.Spells ds x ∧ x.value? = some n) ∨
    (∀ s, head ≠ text s) ∧ ∀ n, head ≠ number n := by
  obtain ⟨before, hbefore, hcs⟩ := exists_eq_append_skipBlanks cs
  rw [read?] at h
  split at h
  · cases h
  -- The three words.
  iterate 3
    · obtain ⟨_, _, hpair⟩ := Option.map_eq_some_iff.mp h
      cases hpair
      exact .inr (.inr ⟨by rintro s ⟨⟩, by rintro n ⟨⟩⟩)
  · rename_i tail heq
    obtain ⟨⟨s, rest'⟩, hread, hpair⟩ := Option.map_eq_some_iff.mp h
    cases hpair
    obtain ⟨body, hspells, rfl⟩ := Literal.read?_eq_some_iff.mp hread
    exact .inl ⟨s, before, body, rfl, by rw [← heq]; exact hcs, hbefore, hspells⟩
  -- The two brackets.
  iterate 2
    · cases h
      exact .inr (.inr ⟨by rintro s ⟨⟩, by rintro n ⟨⟩⟩)
  · simp only [Option.bind_eq_bind, Option.bind_eq_some_iff, Option.pure_def, Option.some_inj,
      Prod.exists, Prod.mk.injEq] at h
    obtain ⟨x, rest', hread, n, hvalue, rfl, rfl⟩ := h
    obtain ⟨ds, hds, hspells⟩ := Numeral.exists_spells_of_read? hread
    exact .inr (.inl ⟨n, before, ds, x, rfl, hcs.trans (by rw [hds]), hbefore, hspells, hvalue⟩)

end Head

section Scalar

variable {α : Type} {f : Head → Except Mismatch α} {doc : String}

theorem wellFormed_eq_ok_iff {o : Option α} {a : α} : wellFormed o = .ok a ↔ o = some a := by
  cases o <;> simp [wellFormed]

theorem agreeing_eq_ok_iff {x : Except Mismatch α} {a : α} : agreeing x = .ok a ↔ x = .ok a := by
  cases x <;> simp [agreeing]

section Read

variable {head : Head} {cs rest : List Char} (hread : Head.read? cs = some (head, rest))

include hread

theorem scalar_of_ok {a : α} (hf : f head = .ok a) : scalar f cs = .ok (a, rest) := by
  simp only [scalar, hread, wellFormed, ok_bind, hf, agreeing]
  rfl

theorem scalar_of_error {e : Mismatch} (hf : f head = .error e) :
    scalar f cs = .error (.mismatch e) := by
  simp only [scalar, hread, wellFormed, ok_bind, hf, agreeing]
  rfl

end Read

theorem scalar_eq_ok_iff {cs rest : List Char} {a : α} :
    scalar f cs = .ok (a, rest) ↔ ∃ head, Head.read? cs = some (head, rest) ∧ f head = .ok a := by
  constructor
  · intro h
    obtain ⟨⟨head, rest'⟩, hread, hhead⟩ := bind_eq_ok_iff.mp h
    obtain ⟨a', hf, hpair⟩ := bind_eq_ok_iff.mp hhead
    cases hpair
    exact ⟨head, wellFormed_eq_ok_iff.mp hread, agreeing_eq_ok_iff.mp hf⟩
  · rintro ⟨head, hread, hf⟩
    exact scalar_of_ok hread hf

/-- After the value of a document there are only blanks. -/
theorem document_eq_ok_iff {read : Reader α} {a : α} :
    document read doc = .ok a ↔
      ∃ rest, read doc.toList = .ok (a, rest) ∧ rest.all isBlank = true := by
  constructor
  · intro h
    obtain ⟨⟨a', rest⟩, hread, hrest⟩ := bind_eq_ok_iff.mp h
    dsimp only at hrest
    split at hrest
    · rename_i hblank
      cases hrest
      exact ⟨rest, hread, skipBlanks_eq_nil_iff.mp hblank⟩
    · cases hrest
  · rintro ⟨rest, hread, hrest⟩
    rw [document, hread, ok_bind]
    exact if_pos (skipBlanks_eq_nil_iff.mpr hrest)

theorem document_scalar_eq_ok_iff {a : α} :
    document (scalar f) doc = .ok a ↔
      ∃ head rest, Head.read? doc.toList = some (head, rest) ∧ f head = .ok a ∧
        rest.all isBlank = true := by
  simp only [document_eq_ok_iff, scalar_eq_ok_iff]
  constructor
  · rintro ⟨rest, ⟨head, hread, hf⟩, hrest⟩
    exact ⟨head, rest, hread, hf, hrest⟩
  · rintro ⟨head, rest, hread, hf, hrest⟩
    exact ⟨rest, ⟨head, hread, hf⟩, hrest⟩

theorem document_of_error {head : Head} {rest : List Char} {e : Mismatch}
    (hread : Head.read? doc.toList = some (head, rest)) (hf : f head = .error e) :
    document (scalar f) doc = .error (.mismatch e) := by
  rw [document, scalar_of_error hread hf, error_bind]

theorem document_of_denotes {value : List Char} {head : Head} (h : Holds doc value)
    (hvalue : Denotes value head) : document (scalar f) doc = agreeing (f head) := by
  obtain ⟨before, after, hdoc, hbefore, hafter⟩ := h
  have hread : Head.read? doc.toList = some (head, after) := by
    rw [hdoc, Head.read?_append hbefore, hvalue after (ends_of_isBlank hafter)]
  rcases hf : f head with e | a
  · exact document_of_error hread hf
  · exact document_scalar_eq_ok_iff.mpr ⟨_, after, hread, hf, hafter⟩

/-- A document with a numeral is taken if the number that it stands for is. -/
theorem document_eq_ok_iff_of_spells {ds : List Char} {x : Numeral} (h : Holds doc ds)
    (hx : Numeral.Spells ds x) {a : α} :
    document (scalar f) doc = .ok a ↔ ∃ n, x.value? = some n ∧ f (.number n) = .ok a := by
  obtain ⟨before, after, hdoc, hbefore, hafter⟩ := h
  have hread : Head.read? doc.toList = x.value?.map fun n => (.number n, after) := by
    rw [hdoc, Head.read?_append hbefore, Head.read?_append_of_spells hx (ends_of_isBlank hafter)]
  simp only [document_scalar_eq_ok_iff, hread, Option.map_eq_some_iff]
  constructor
  · rintro ⟨head, rest, ⟨n, hn, hpair⟩, hf, -⟩
    cases hpair
    exact ⟨n, hn, hf⟩
  · rintro ⟨n, hn, hf⟩
    exact ⟨.number n, after, ⟨n, hn, rfl⟩, hf, hafter⟩

theorem document_map {β : Type} (g : α → β) :
    document (scalar fun head => (f head).map g) doc = (document (scalar f) doc).map g := by
  simp only [document, scalar]
  rcases Head.read? doc.toList with _ | ⟨head, rest⟩
  · rfl
  · simp only [wellFormed, ok_bind]
    rcases f head with e | a
    · rfl
    · show (if skipBlanks rest = [] then pure (g a) else throw .malformed) =
        (if skipBlanks rest = [] then pure a else throw .malformed : Except Fault α).map g
      split <;> rfl

theorem document_text {s : String} (h : IsText doc s) :
    document (scalar f) doc = agreeing (f (.text s)) := by
  obtain ⟨body, hdoc, hspells⟩ := isText_iff.mp h
  exact document_of_denotes hdoc (denotes_of_spells hspells)

theorem Scalar.text_eq_ok_iff {expected s : String} {read : String → Except String α} {a : α} :
    Scalar.text expected read (.text s) = .ok a ↔ read s = .ok a := by
  cases hs : read s <;> simp [Scalar.text, Except.mapError, hs]

theorem Scalar.string_text (s : String) : Scalar.string (.text s) = .ok s :=
  text_eq_ok_iff.mpr rfl

/-- A reader of texts takes the documents that hold a text which it takes, and no others. -/
theorem document_text_eq_ok_iff {expected : String} {read : String → Except String α} {a : α} :
    document (scalar (Scalar.text expected read)) doc = .ok a ↔
      ∃ s, IsText doc s ∧ read s = .ok a := by
  constructor
  · intro h
    obtain ⟨head, rest, hread, hhead, hrest⟩ := document_scalar_eq_ok_iff.mp h
    rcases Head.read?_cases hread with ⟨s, before, body, rfl, hdoc, hbefore, hspells⟩ |
      ⟨n, _, _, _, rfl, -⟩ | ⟨htext, -⟩
    · exact ⟨s, ⟨before, body, rest, hdoc, hbefore, hrest, hspells⟩,
        Scalar.text_eq_ok_iff.mp hhead⟩
    · cases hhead
    · cases head with
      | text s => exact absurd rfl (htext s)
      | _ => cases hhead
  · rintro ⟨s, hdoc, hs⟩
    rw [document_text hdoc, agreeing_eq_ok_iff, Scalar.text_eq_ok_iff]
    exact hs

end Scalar

theorem Scalar.bounded_eq_ok_iff {max n : Nat} {expected : String} {head : Head} :
    bounded max expected head = .ok n ↔ n ≤ max ∧ head = .number (.integer n) := by
  constructor
  · intro h
    rw [bounded.eq_def] at h
    split at h
    · split at h
      · rename_i i hi
        obtain rfl := Except.ok.inj h
        refine ⟨by omega, ?_⟩
        rw [Int.toNat_of_nonneg hi.1]
      · cases h
    · cases h
  · rintro ⟨hn, rfl⟩
    have hbounds : (0 : Int) ≤ n ∧ (n : Int) ≤ max := by omega
    rw [bounded, if_pos hbounds, Int.toNat_natCast]

theorem Scalar.byte_eq_ok_iff {head : Head} {b : UInt8} :
    byte head = .ok b ↔ head = .number (.integer b.toNat) := by
  simp only [byte, map_eq_ok_iff, bounded_eq_ok_iff]
  constructor
  · rintro ⟨n, ⟨hn, rfl⟩, rfl⟩
    rw [UInt8.toNat_ofNat_of_lt' (Nat.lt_succ_of_le hn)]
  · rintro rfl
    exact ⟨b.toNat, ⟨Nat.le_of_lt_succ b.toNat_lt, rfl⟩, UInt8.ofNat_toNat⟩

theorem Scalar.word_eq_ok_iff {head : Head} {w : UInt64} :
    word head = .ok w ↔ head = .number (.integer w.toNat) := by
  simp only [word, map_eq_ok_iff, bounded_eq_ok_iff]
  constructor
  · rintro ⟨n, ⟨hn, rfl⟩, rfl⟩
    rw [UInt64.toNat_ofNat_of_lt' (Nat.lt_succ_of_le hn)]
  · rintro rfl
    exact ⟨w.toNat, ⟨Nat.le_of_lt_succ w.toNat_lt, rfl⟩, UInt64.ofNat_toNat⟩

theorem Scalar.word_integer (n : UInt64) : Scalar.word (.number (.integer n.toNat)) = .ok n :=
  word_eq_ok_iff.mpr rfl

/-- A number of 64 bits, or none, is read back from the way it is written. -/
theorem exists_denotes_writeOptional (n : Option UInt64) :
    ∃ head, Denotes (writeOptional (n.map UInt64.toNat)) head ∧
      Scalar.optional Scalar.word head = .ok n := by
  cases n with
  | none => exact ⟨.null, denotes_null, rfl⟩
  | some n =>
      refine ⟨_, denotes_digits n.toNat_lt, ?_⟩
      rw [Scalar.optional, Scalar.word_integer]
      · rfl
      · rintro ⟨⟩

theorem isText_write (s : String) : IsText (String.ofList (Literal.write s)) s :=
  ⟨[], s.toList.flatMap Literal.escape, [], by simp [Literal.write], rfl, rfl,
    Literal.spells_flatMap_escape s.toList⟩

end Snowflake.Json
