import Snowflake.Json.Record
import Snowflake.Proofs.Json.Document

/-!
Records read back. The members of a map are read one after the other, and as no field may be given
twice, the draft depends on which fields were given and not on their order.
-/

namespace Snowflake.Json

open Reader

/-- The first item, and each other one with the separator in front. -/
theorem intercalate_cons {α : Type} (separator x : List α) (xs : List (List α)) :
    List.intercalate separator (x :: xs) = x ++ xs.flatMap (separator ++ ·) := by
  induction xs generalizing x with
  | nil => simp
  | cons x' xs ih =>
      rw [List.intercalate_cons_cons, ih, List.flatMap_cons]
      simp only [List.append_assoc]

/-- A member as it stands in a map. -/
def Member.written (m : Member) : List Char :=
  Literal.write m.1 ++ ':' :: m.2

/-- Members that follow others. -/
def Object.others (ms : List Member) : List Char :=
  ms.flatMap fun m => ',' :: m.written

theorem Object.intercalate_written (m : Member) (ms : List Member) :
    List.intercalate [','] ((m :: ms).map Member.written) = m.written ++ others ms := by
  rw [List.map_cons, intercalate_cons, List.flatMap_map]
  rfl

theorem Object.line_cons (m : Member) (ms : List Member) :
    line (m :: ms) = '{' :: (m.written ++ (others ms ++ ['}'])) := by
  have hline : line (m :: ms) =
      '{' :: (List.intercalate [','] ((m :: ms).map Member.written) ++ ['}']) := rfl
  rw [hline, intercalate_written, List.append_assoc]

theorem Object.length_le_others (ms : List Member) : ms.length ≤ (others ms).length := by
  induction ms with
  | nil => exact Nat.le_refl 0
  | cons m ms ih =>
      simp only [others, List.flatMap_cons, List.length_append, List.length_cons] at ih ⊢
      omega

theorem mark_cons {c : Char} (h : isBlank c = false) (cs : List Char) : mark c (c :: cs) = .ok cs := by
  simp [mark, skipBlanks_of_not_isBlank h, after?, wellFormed]

namespace Member

variable (m : Member) (rest : List Char)

theorem written_append : m.written ++ rest =
    '"' :: (m.1.toList.flatMap Literal.escape ++ '"' :: ':' :: (m.2 ++ rest)) := by
  simp [written, Literal.write]

theorem skipBlanks_written : skipBlanks (m.written ++ rest) = m.written ++ rest := by
  rw [written_append]
  exact skipBlanks_of_not_isBlank (by decide) _

theorem key_written : key (m.written ++ rest) = .ok (m.1, ':' :: (m.2 ++ rest)) := by
  rw [key, written_append, mark_cons (by decide), ok_bind, Literal.read?_write]
  rfl

end Member

namespace Layout

variable {δ α : Type} {l : Layout δ α} {m : Member} {ms : List Member} {d d' : δ}
  {rest : List Char}

/-- The member `m` gives a field that was not given yet a value that the field takes. With it the
draft `d` becomes `d'`. -/
def Takes (l : Layout δ α) (m : Member) (d d' : δ) : Prop :=
  ∃ field head, l.field? m.1 = some field ∧ field.isSet d = false ∧ Denotes m.2 head ∧
    field.set head d = .ok d'

/-- The members `ms`, taken one after the other, make the draft `d'` of `d`. -/
inductive Fills (l : Layout δ α) : List Member → δ → δ → Prop
  | nil (d : δ) : Fills l [] d d
  | cons {m : Member} {ms : List Member} {d d' d'' : δ} (first : l.Takes m d d')
      (others : Fills l ms d' d'') : Fills l (m :: ms) d d''

theorem member_of_takes (h : l.Takes m d d') (hrest : Numeral.Ends rest) :
    l.member m.1 d (':' :: (m.2 ++ rest)) = .ok (d', rest) := by
  obtain ⟨field, head, hfield, hunset, hvalue, hset⟩ := h
  have hcolon : isBlank ':' = false := by decide
  simp only [member, hfield, hunset, Bool.false_eq_true, if_false]
  rw [mark_cons hcolon, ok_bind]
  exact scalar_of_ok (hvalue rest hrest) hset

theorem members_first (h : l.Takes m d d') (hrest : Numeral.Ends rest) (fuel : Nat) :
    l.members (fuel + 1) true d (m.written ++ rest) = l.members fuel false d' rest := by
  rw [members, m.skipBlanks_written]
  split
  · rename_i heq
    rw [m.written_append] at heq
    cases heq
  · simp only [if_true]
    rw [pure_bind, m.key_written, ok_bind, member_of_takes h hrest, ok_bind]

theorem members_next (h : l.Takes m d d') (hrest : Numeral.Ends rest) (fuel : Nat) :
    l.members (fuel + 1) false d (',' :: (m.written ++ rest)) = l.members fuel false d' rest := by
  have hcomma : isBlank ',' = false := by decide
  rw [members, skipBlanks_of_not_isBlank hcomma]
  split
  · rename_i heq
    cases heq
  · simp only [Bool.false_eq_true, if_false]
    rw [mark_cons hcomma, ok_bind, m.key_written, ok_bind, member_of_takes h hrest, ok_bind]

theorem ends_others (ms : List Member) (rest : List Char) :
    Numeral.Ends (Object.others ms ++ '}' :: rest) := by
  cases ms with
  | nil =>
      rintro c ⟨⟩
      decide
  | cons m ms =>
      rintro c ⟨⟩
      decide

theorem members_of_fills (h : l.Fills ms d d') {fuel : Nat} (hfuel : ms.length < fuel) :
    l.members fuel false d (Object.others ms ++ '}' :: rest) = .ok (d', rest) := by
  induction h generalizing fuel with
  | nil d =>
      obtain ⟨fuel, rfl⟩ := Nat.exists_eq_succ_of_ne_zero (Nat.ne_of_gt hfuel)
      rfl
  | @cons m ms d d' d'' first _ ih =>
      obtain ⟨fuel, rfl⟩ := Nat.exists_eq_succ_of_ne_zero (Nat.ne_of_gt (Nat.zero_lt_of_lt hfuel))
      have hothers : Object.others (m :: ms) ++ '}' :: rest =
          ',' :: (m.written ++ (Object.others ms ++ '}' :: rest)) := by
        simp [Object.others]
      rw [hothers, members_next first (ends_others ms rest)]
      exact ih (Nat.lt_of_succ_lt_succ hfuel)

theorem read_of_fills (h : l.Fills ms l.blank d) :
    l.read (Object.line ms ++ rest) = (agreeing (l.finish d)).map fun a => (a, rest) := by
  have hmembers : ∃ cs, Object.line ms ++ rest = '{' :: cs ∧
      l.members (cs.length + 1) true l.blank cs = .ok (d, rest) := by
    cases h with
    | nil => exact ⟨_, rfl, rfl⟩
    | @cons m ms _ d' _ first others =>
        refine ⟨m.written ++ (Object.others ms ++ '}' :: rest), ?_, ?_⟩
        · simp [Object.line_cons]
        · rw [members_first first (ends_others ms rest)]
          apply members_of_fills others
          have hlength := Object.length_le_others ms
          simp only [List.length_append, List.length_cons]
          omega
  obtain ⟨cs, hcs, hmembers⟩ := hmembers
  have hhead : Head.read? ('{' :: cs) = some (.map, cs) := by
    rw [Head.read?, skipBlanks_of_not_isBlank (by decide)]
    rfl
  rw [read, hcs, hhead, wellFormed, ok_bind]
  dsimp only
  rw [hmembers, ok_bind]
  cases l.finish d <;> rfl

/-- A written map is read as the layout makes it of its members, and nothing is left. -/
theorem document_of_fills (h : l.Fills ms l.blank d) :
    document l.read (String.ofList (Object.line ms)) = agreeing (l.finish d) := by
  have hread : l.read (Object.line ms ++ []) = (agreeing (l.finish d)).map fun a => (a, []) :=
    read_of_fills h
  rw [List.append_nil] at hread
  rw [document, String.toList_ofList, hread]
  cases l.finish d <;> rfl

/-- The value `b` of the field `name`, in a draft for which the fields `given` were given. -/
def pick {β : Type} (given : List String) (name : String) (b : β) : Option β :=
  if name ∈ given then some b else none

section Pick

variable {β : Type} {given : List String} {name other : String} {b : β}

theorem pick_of_mem (h : name ∈ given) : pick given name b = some b :=
  if_pos h

theorem isSome_pick_of_not_mem (h : name ∉ given) : (pick given name b).isSome = false := by
  rw [pick, if_neg h]
  rfl

@[simp] theorem pick_cons_self : pick (name :: given) name b = some b :=
  pick_of_mem List.mem_cons_self

@[simp] theorem pick_cons_of_ne (h : name ≠ other) :
    pick (other :: given) name b = pick given name b := by
  simp [pick, h]

end Pick

/-- `draft` tells the draft from the names of the fields that were given, whatever their order: it
starts blank, and each of the members `ms` is taken once. -/
structure Tracks (l : Layout δ α) (ms : List Member) (draft : List String → δ) : Prop where
  blank : draft [] = l.blank
  takes : ∀ m ∈ ms, ∀ given, m.1 ∉ given → l.Takes m (draft given) (draft (m.1 :: given))

namespace Tracks

variable {all : List Member} {draft : List String → δ} (h : l.Tracks all draft)

include h

theorem fills (hsub : ms ⊆ all) {given : List String}
    (hnodup : ((ms.map Prod.fst).reverse ++ given).Nodup) :
    l.Fills ms (draft given) (draft ((ms.map Prod.fst).reverse ++ given)) := by
  induction ms generalizing given with
  | nil => exact .nil _
  | cons m ms ih =>
      obtain ⟨hm, hms⟩ := List.cons_subset.mp hsub
      have hshift : ((m :: ms).map Prod.fst).reverse ++ given =
          (ms.map Prod.fst).reverse ++ m.1 :: given := by
        simp
      rw [hshift] at hnodup ⊢
      have hnew : m.1 ∉ given := (List.nodup_cons.mp (List.Nodup.of_append_right hnodup)).1
      exact .cons (h.takes m hm given hnew) (ih hms hnodup)

theorem document_line (hsub : ms ⊆ all) (hnodup : (ms.map Prod.fst).Nodup) :
    document l.read (String.ofList (Object.line ms)) =
      agreeing (l.finish (draft (ms.map Prod.fst).reverse)) := by
  have hfills : l.Fills ms (draft []) (draft ((ms.map Prod.fst).reverse ++ [])) :=
    h.fills hsub (by simpa using hnodup)
  rw [h.blank, List.append_nil] at hfills
  exact document_of_fills hfills

/-- Members are read in every order, if a record can be made whenever all of them were given. -/
theorem document_perm {given : List Member} {a : α} (hperm : ms.Perm given) (hsub : given ⊆ all)
    (hnodup : (given.map Prod.fst).Nodup)
    (hfinish : ∀ names, (∀ m ∈ given, m.1 ∈ names) → l.finish (draft names) = .ok a) :
    document l.read (String.ofList (Object.line ms)) = .ok a := by
  have hnames := hperm.map Prod.fst
  rw [h.document_line (List.Subset.trans hperm.subset hsub) (hnames.nodup_iff.mpr hnodup),
    agreeing_eq_ok_iff]
  apply hfinish
  intro m hm
  rw [List.mem_reverse, hnames.mem_iff]
  exact List.mem_map_of_mem hm

end Tracks

end Layout

end Snowflake.Json
