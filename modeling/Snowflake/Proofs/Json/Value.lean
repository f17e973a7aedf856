import Snowflake.Proofs.Json.Document

/-!
The grammar of values and of documents that hold a map. Blanks may stand between any two marks. The
head of every value of the grammar is found, and a scalar is read to its end.
-/

namespace Snowflake.Json

/-- A member of a map as it is written: the body of its key, and its value. -/
abbrev RawMember : Type :=
  List Char × List Char

section Grammar

variable (P : List Char → Prop)

/-- What follows an element of a sequence, up to the bracket that closes it. -/
inductive ElementsFollow : List Char → Prop where
  | close {before : List Char} (hbefore : before.all isBlank = true) :
      ElementsFollow (before ++ [']'])
  | more {before between value rest : List Char} (hbefore : before.all isBlank = true)
      (hbetween : between.all isBlank = true) (hvalue : P value)
      (h : ElementsFollow rest) : ElementsFollow (before ++ ',' :: (between ++ (value ++ rest)))

inductive IsSequence : List Char → Prop where
  | empty {between : List Char} (hbetween : between.all isBlank = true) :
      IsSequence ('[' :: (between ++ [']']))
  | elements {between value rest : List Char} (hbetween : between.all isBlank = true)
      (hvalue : P value) (h : ElementsFollow P rest) :
      IsSequence ('[' :: (between ++ (value ++ rest)))

inductive IsMember : List Char → RawMember → Prop where
  | mk {before between after body value : List Char} (hbefore : before.all isBlank = true)
      (hbetween : between.all isBlank = true) (hafter : after.all isBlank = true)
      (hbody : Literal.IsBody body) (hvalue : P value) :
      IsMember (before ++ '"' :: (body ++ '"' :: (between ++ ':' :: (after ++ value))))
        (body, value)

/-- What follows a member of a map, up to the brace that closes it. -/
inductive MembersFollow : List Char → List RawMember → Prop where
  | close {before : List Char} (hbefore : before.all isBlank = true) :
      MembersFollow (before ++ ['}']) []
  | more {before member rest : List Char} {m : RawMember} {ms : List RawMember}
      (hbefore : before.all isBlank = true) (hmember : IsMember P member m)
      (h : MembersFollow rest ms) : MembersFollow (before ++ ',' :: (member ++ rest)) (m :: ms)

inductive IsMap : List Char → List RawMember → Prop where
  | empty {between : List Char} (hbetween : between.all isBlank = true) :
      IsMap ('{' :: (between ++ ['}'])) []
  | members {member rest : List Char} {m : RawMember} {ms : List RawMember}
      (hmember : IsMember P member m) (h : MembersFollow P rest ms) :
      IsMap ('{' :: (member ++ rest)) (m :: ms)

end Grammar

/-- The characters are a value, without blanks around it. -/
inductive IsValue : List Char → Prop where
  | null : IsValue ['n', 'u', 'l', 'l']
  | booleanTrue : IsValue ['t', 'r', 'u', 'e']
  | booleanFalse : IsValue ['f', 'a', 'l', 's', 'e']
  | number {cs : List Char} {x : Numeral} (h : Numeral.Spells cs x) : IsValue cs
  | text {body : List Char} (h : Literal.IsBody body) : IsValue ('"' :: (body ++ ['"']))
  | sequence {cs : List Char} (h : IsSequence IsValue cs) : IsValue cs
  | map {cs : List Char} {ms : List RawMember} (h : IsMap IsValue cs ms) : IsValue cs

/-- The key and the value of a member as it is written. -/
def RawMember.IsOf (raw : RawMember) (m : Member) : Prop :=
  Literal.Spells raw.1 m.1.toList ∧ raw.2 = m.2

/-- The document `doc` is a map with the members `ms`, in this order, and blanks around it. -/
def IsObject (doc : String) (ms : List Member) : Prop :=
  ∃ before cs after raws, doc.toList = before ++ (cs ++ after) ∧ before.all isBlank = true ∧
    after.all isBlank = true ∧ IsMap IsValue cs raws ∧ List.Forall₂ RawMember.IsOf raws ms

theorem Denotes.eq {value rest rest' : List Char} {head head' : Head} (h : Denotes value head)
    (hrest : Numeral.Ends rest) (hread : Head.read? (value ++ rest) = some (head', rest')) :
    head' = head ∧ rest' = rest := by
  rw [h rest hrest] at hread
  cases hread
  exact ⟨rfl, rfl⟩

namespace IsValue

variable {value rest rest' : List Char} {head : Head}

/-- A value is a scalar, or a text or a number that stands for nothing, or starts with a bracket. -/
theorem read?_cases (h : IsValue value) :
    (∃ head, Denotes value head) ∨
      (∀ rest, Numeral.Ends rest → Head.read? (value ++ rest) = none) ∨
      ∃ tail, value = '[' :: tail ∨ value = '{' :: tail := by
  cases h with
  | null => exact .inl ⟨.null, denotes_null⟩
  | booleanTrue => exact .inl ⟨.boolean true, fun rest _ => rfl⟩
  | booleanFalse => exact .inl ⟨.boolean false, fun rest _ => rfl⟩
  | @number cs x h =>
      rcases hvalue : x.value? with _ | n
      · refine .inr (.inl fun rest hrest => ?_)
        rw [Head.read?_append_of_spells h hrest, hvalue]
        rfl
      · refine .inl ⟨.number n, fun rest hrest => ?_⟩
        rw [Head.read?_append_of_spells h hrest, hvalue]
        rfl
  | @text body h =>
      have hread (rest : List Char) : Head.read? ('"' :: (body ++ ['"']) ++ rest) =
          ((Literal.units? body).bind Literal.chars?).map
            fun cs => (.text (String.ofList cs), rest) := by
        rw [List.cons_append, List.append_assoc, List.singleton_append, Head.read?_quote,
          h.read?_append, Option.map_map]
        rfl
      rcases hchars : (Literal.units? body).bind Literal.chars? with _ | cs
      · refine .inr (.inl fun rest _ => ?_)
        rw [hread, hchars]
        rfl
      · refine .inl ⟨.text (String.ofList cs), fun rest _ => ?_⟩
        rw [hread, hchars]
        rfl
  | sequence h => cases h <;> exact .inr (.inr ⟨_, .inl rfl⟩)
  | map h => cases h <;> exact .inr (.inr ⟨_, .inr rfl⟩)

/-- A value that is neither a number nor a text is known by its first characters. -/
theorem exists_read?_of_ne (h : IsValue value) (hnumber : ∀ x, ¬ Numeral.Spells value x)
    (htext : value.head? ≠ some '"') :
    ∃ head, (∀ s, head ≠ .text s) ∧ (∀ n, head ≠ .number n) ∧
      ∀ rest, ∃ rest', Head.read? (value ++ rest) = some (head, rest') := by
  cases h with
  | null => exact ⟨.null, nofun, nofun, fun rest => ⟨rest, rfl⟩⟩
  | booleanTrue => exact ⟨.boolean true, nofun, nofun, fun rest => ⟨rest, rfl⟩⟩
  | booleanFalse => exact ⟨.boolean false, nofun, nofun, fun rest => ⟨rest, rfl⟩⟩
  | number h => exact absurd h (hnumber _)
  | text h => exact absurd rfl htext
  | sequence h => cases h <;> exact ⟨.sequence, nofun, nofun, fun rest => ⟨_, rfl⟩⟩
  | map h => cases h <;> exact ⟨.map, nofun, nofun, fun rest => ⟨_, rfl⟩⟩

/-- A value that is not read as a sequence or a map is read to its end. -/
theorem denotes (h : IsValue value) (hrest : Numeral.Ends rest)
    (hread : Head.read? (value ++ rest) = some (head, rest')) (hsequence : head ≠ .sequence)
    (hmap : head ≠ .map) : Denotes value head ∧ rest' = rest := by
  rcases h.read?_cases with ⟨head', hdenotes⟩ | hnone | ⟨tail, rfl | rfl⟩
  · obtain ⟨rfl, hrest'⟩ := hdenotes.eq hrest hread
    exact ⟨hdenotes, hrest'⟩
  · rw [hnone rest hrest] at hread
    cases hread
  · cases hread
    exact absurd rfl hsequence
  · cases hread
    exact absurd rfl hmap

end IsValue

section Members

variable {P : List Char → Prop} {cs : List Char} {raws : List RawMember}

theorem MembersFollow.forall_value (h : MembersFollow P cs raws) : ∀ raw ∈ raws, P raw.2 := by
  induction h with
  | close hbefore => exact List.forall_mem_nil _
  | more hbefore hmember h ih =>
      obtain ⟨-, -, -, -, hvalue⟩ := hmember
      exact List.forall_mem_cons.mpr ⟨hvalue, ih⟩

theorem IsMap.forall_value (h : IsMap P cs raws) : ∀ raw ∈ raws, P raw.2 := by
  cases h with
  | empty hbetween => exact List.forall_mem_nil _
  | members hmember h =>
      obtain ⟨-, -, -, -, hvalue⟩ := hmember
      exact List.forall_mem_cons.mpr ⟨hvalue, h.forall_value⟩

end Members

theorem IsObject.isValue {doc : String} {ms : List Member} (h : IsObject doc ms) :
    ∀ m ∈ ms, IsValue m.2 := by
  obtain ⟨_, _, _, raws, -, -, -, hmap, hraws⟩ := h
  have hvalues := hmap.forall_value
  clear hmap
  induction hraws with
  | nil => exact List.forall_mem_nil _
  | cons hraw _ ih =>
      rw [List.forall_mem_cons] at hvalues ⊢
      exact ⟨hraw.2 ▸ hvalues.1, ih hvalues.2⟩

theorem isValue_digits (n : Nat) : IsValue (Decimal.digits n) :=
  .number (Numeral.spells_digits n)

/-- The only value that is read as an integer from zero on is written with its digits. -/
theorem IsValue.eq_digits {value : List Char} {n : Nat} (h : IsValue value)
    (hvalue : Denotes value (.number (.integer n))) :
    value = Decimal.digits n ∧ n < 0x10000000000000000 := by
  have hread := hvalue [] Numeral.ends_nil
  cases h with
  | null => cases hread
  | booleanTrue => cases hread
  | booleanFalse => cases hread
  | number h =>
      rw [Head.read?_append_of_spells h Numeral.ends_nil] at hread
      simp only [Option.map_eq_some_iff, Prod.mk.injEq, Head.number.injEq, and_true,
        exists_eq_right] at hread
      exact h.eq_digits hread
  | text h =>
      rw [List.cons_append, Head.read?_quote] at hread
      simp at hread
  | sequence h => cases h <;> cases hread
  | map h => cases h <;> cases hread

end Snowflake.Json
