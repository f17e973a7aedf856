import Snowflake.Proofs.Json.Record
import Snowflake.Proofs.Json.Value

/-!
Maps read by a layout that passes nothing over. Such a layout takes a map exactly if it takes its
members one after the other, wherever blanks stand and however the keys are written.
-/

namespace Snowflake.Json

open Reader

section Marks

variable {before : List Char} {c : Char}

theorem mark_append (hbefore : before.all isBlank = true) (cs : List Char) :
    mark c (before ++ cs) = mark c cs := by
  rw [mark, skipBlanks_append hbefore, mark]

theorem key_append (hbefore : before.all isBlank = true) (cs : List Char) :
    key (before ++ cs) = key cs := by
  rw [key, mark_append hbefore, key]

theorem ends_append (hbefore : before.all isBlank = true) (hc : c = ',' ∨ c = '}')
    (rest : List Char) : Numeral.Ends (before ++ c :: rest) := by
  apply ends_append_of_isBlank hbefore
  intro d hd
  obtain rfl : c = d := by simpa using hd
  rcases hc with rfl | rfl <;> decide

end Marks

section Line

theorem Member.isMember_written {m : Member} (h : IsValue m.2) :
    IsMember IsValue m.written (m.1.toList.flatMap Literal.escape, m.2) := by
  have hbody := (Literal.spells_flatMap_escape m.1.toList).isBody
  simpa [written, Literal.write] using
    @IsMember.mk IsValue [] [] [] _ _ rfl rfl rfl hbody h

theorem Object.membersFollow_others {ms : List Member} (h : ∀ m ∈ ms, IsValue m.2) :
    MembersFollow IsValue (others ms ++ ['}'])
      (ms.map fun m => (m.1.toList.flatMap Literal.escape, m.2)) := by
  induction ms with
  | nil => exact @MembersFollow.close IsValue [] rfl
  | cons m ms ih =>
      rw [List.forall_mem_cons] at h
      simpa [others] using
        @MembersFollow.more IsValue [] _ _ _ _ rfl (Member.isMember_written h.1) (ih h.2)

/-- What is written for members with proper values is a map of the grammar. -/
theorem isObject_line {ms : List Member} (h : ∀ m ∈ ms, IsValue m.2) :
    IsObject (String.ofList (Object.line ms)) ms := by
  refine ⟨[], Object.line ms, [], ms.map fun m => (m.1.toList.flatMap Literal.escape, m.2), ?_, rfl,
    rfl, ?_, ?_⟩
  · simp
  · cases ms with
    | nil => exact @IsMap.empty IsValue [] rfl
    | cons m ms =>
        rw [List.forall_mem_cons] at h
        rw [Object.line_cons]
        exact .members (Member.isMember_written h.1) (Object.membersFollow_others h.2)
  · rw [List.forall₂_map_left_iff, List.forall₂_same]
    exact fun m _ => ⟨Literal.spells_flatMap_escape m.1.toList, rfl⟩

end Line

section Block

/-- A member as it stands on a line of its own. -/
def Member.indented (m : Member) : List Char :=
  ['\n', ' ', ' '] ++ Literal.write m.1 ++ [':', ' '] ++ m.2

theorem Object.block_cons (m : Member) (ms : List Member) :
    block (m :: ms) =
      '{' :: (m.indented ++ (ms.flatMap (fun m => ',' :: m.indented) ++ ['\n', '}'])) := by
  simp [block, intercalate_cons, Member.indented, List.flatMap_map]

theorem Member.isMember_indented {m : Member} (h : IsValue m.2) :
    IsMember IsValue m.indented (m.1.toList.flatMap Literal.escape, m.2) := by
  have hbody := (Literal.spells_flatMap_escape m.1.toList).isBody
  simpa [indented, Literal.write] using
    @IsMember.mk IsValue ['\n', ' ', ' '] [] [' '] _ _ rfl rfl rfl hbody h

theorem Object.membersFollow_indented {ms : List Member} (h : ∀ m ∈ ms, IsValue m.2) :
    MembersFollow IsValue (ms.flatMap (fun m => ',' :: m.indented) ++ ['\n', '}'])
      (ms.map fun m => (m.1.toList.flatMap Literal.escape, m.2)) := by
  induction ms with
  | nil => exact @MembersFollow.close IsValue ['\n'] rfl
  | cons m ms ih =>
      rw [List.forall_mem_cons] at h
      simpa using @MembersFollow.more IsValue [] _ _ _ _ rfl (Member.isMember_indented h.1) (ih h.2)

theorem isMap_block {ms : List Member} (h : ∀ m ∈ ms, IsValue m.2) :
    IsMap IsValue (Object.block ms) (ms.map fun m => (m.1.toList.flatMap Literal.escape, m.2)) := by
  cases ms with
  | nil => exact @IsMap.empty IsValue ['\n', '\n'] rfl
  | cons m ms =>
      rw [List.forall_mem_cons] at h
      rw [Object.block_cons]
      exact .members (Member.isMember_indented h.1) (Object.membersFollow_indented h.2)

/-- The characters are one map with these keys, in this order and no others, each with a value that
is read as the scalar beside it. -/
def Tells (cs : List Char) (entries : List (String × Head)) : Prop :=
  ∃ raws, IsMap IsValue cs raws ∧
    List.Forall₂ (fun raw e => Literal.Spells raw.1 e.1.toList ∧ Denotes raw.2 e.2) raws entries

/-- The member is a proper one for the entry. -/
structure Member.Tells (m : Member) (e : String × Head) : Prop where
  key_eq : m.1 = e.1
  isValue : IsValue m.2
  denotes : Denotes m.2 e.2

theorem Member.tells_write (key s : String) : Member.Tells (key, Literal.write s) (key, .text s) :=
  ⟨rfl, .text (Literal.spells_flatMap_escape s.toList).isBody, denotes_write s⟩

theorem Member.tells_digits (key : String) {n : Nat} (h : n < 0x10000000000000000) :
    Member.Tells (key, Decimal.digits n) (key, .number (.integer n)) :=
  ⟨rfl, isValue_digits n, denotes_digits h⟩

theorem tells_block {ms : List Member} {entries : List (String × Head)}
    (h : List.Forall₂ Member.Tells ms entries) : Tells (Object.block ms) entries := by
  refine ⟨_, isMap_block ?_, ?_⟩
  · induction h with
    | nil => exact List.forall_mem_nil _
    | cons hm _ ih => exact List.forall_mem_cons.mpr ⟨hm.isValue, ih⟩
  · rw [List.forall₂_map_left_iff]
    refine h.imp fun m e hm => ⟨?_, hm.denotes⟩
    rw [hm.key_eq]
    exact Literal.spells_flatMap_escape e.1.toList

end Block

section Scalar

variable {α : Type} {f : Head → Except Mismatch α} {cs : List Char}

theorem scalar_append {before : List Char} (hbefore : before.all isBlank = true) :
    scalar f (before ++ cs) = scalar f cs := by
  rw [scalar, Head.read?_append hbefore, scalar]

end Scalar

section Follow

variable {V : List Char → Prop} {cs : List Char} {raws : List RawMember}

theorem MembersFollow.ends (h : MembersFollow V cs raws) (rest : List Char) :
    Numeral.Ends (cs ++ rest) := by
  cases h with
  | close hbefore =>
      rw [List.append_assoc]
      exact ends_append hbefore (.inr rfl) rest
  | more hbefore hmember h =>
      rw [List.append_assoc]
      exact ends_append hbefore (.inl rfl) _

theorem MembersFollow.length_lt (h : MembersFollow V cs raws) : raws.length < cs.length := by
  induction h with
  | close hbefore =>
      rw [List.length_append]
      exact Nat.zero_lt_succ _
  | more hbefore hmember h ih =>
      simp only [List.length_append, List.length_cons]
      omega

end Follow

/-- Every value of the fields is a scalar, and no other fields are allowed. -/
structure Layout.IsStrict {δ α : Type} (l : Layout δ α) : Prop where
  passesOver : l.passesOver = false
  flat : ∀ field ∈ l.fields, ∀ head d d',
    field.set head d = .ok d' → head ≠ .sequence ∧ head ≠ .map

section Fills

variable {δ α : Type} {l : Layout δ α} {m : Member} {ms : List Member} {d d' : δ}

theorem Layout.fills_nil_iff : l.Fills [] d d' ↔ d' = d := by
  constructor
  · rintro ⟨⟩
    rfl
  · rintro rfl
    exact .nil d'

theorem Layout.fills_cons_iff :
    l.Fills (m :: ms) d d' ↔ ∃ d₁, l.Takes m d d₁ ∧ l.Fills ms d₁ d' := by
  constructor
  · rintro (_ | ⟨first, others⟩)
    exact ⟨_, first, others⟩
  · rintro ⟨d₁, first, others⟩
    exact .cons first others

end Fills

namespace Layout.IsStrict

variable {δ α : Type} {l : Layout δ α} (hl : l.IsStrict) {m : Member} {ms : List Member}
  {raw : RawMember} {raws : List RawMember} {d d' : δ} {cs rest rest' : List Char}

include hl

theorem takes_iff {value : List Char} {name : String} {field : RecordField δ}
    (hvalue : IsValue value) (hfield : l.field? name = some field) (hunset : field.isSet d = false)
    (hrest : Numeral.Ends rest) :
    l.Takes (name, value) d d' ∧ rest' = rest ↔
      ∃ head, Head.read? (value ++ rest) = some (head, rest') ∧ field.set head d = .ok d' := by
  constructor
  · rintro ⟨⟨field', head, hfield', -, hdenotes, hset⟩, rfl⟩
    obtain rfl := Option.some_inj.mp (hfield.symm.trans hfield')
    exact ⟨head, hdenotes _ hrest, hset⟩
  · rintro ⟨head, hread, hset⟩
    obtain ⟨hsequence, hmap⟩ := hl.flat field (List.mem_of_find?_eq_some hfield) head d d' hset
    obtain ⟨hdenotes, rfl⟩ := hvalue.denotes hrest hread hsequence hmap
    exact ⟨⟨field, head, hfield, hunset, hdenotes, hset⟩, rfl⟩

theorem member_eq_ok_iff {between after value : List Char} {name : String}
    (hbetween : between.all isBlank = true) (hafter : after.all isBlank = true)
    (hvalue : IsValue value) (hrest : Numeral.Ends rest) :
    l.member name d (between ++ ':' :: (after ++ (value ++ rest))) = .ok (d', rest') ↔
      l.Takes (name, value) d d' ∧ rest' = rest := by
  rw [member]
  rcases hfield : l.field? name with _ | field
  · simp [hl.passesOver, Takes, hfield, throw_bind, throw_ne_ok]
  by_cases hset : field.isSet d = true
  · simp [hset, Takes, hfield, throw_bind, throw_ne_ok]
  · rw [Bool.not_eq_true] at hset
    simp only [hset, Bool.false_eq_true, if_false]
    rw [mark_append hbetween, mark_cons (by decide), ok_bind, scalar_append hafter,
      scalar_eq_ok_iff, hl.takes_iff hvalue hfield hset hrest]

/-- A member of a map, cut at its key. What is left after its value is `rest`. -/
theorem exists_key {member : List Char} (hmember : IsMember IsValue member raw)
    (hraw : raw.IsOf m) (hrest : Numeral.Ends rest) :
    ∃ before cs tail, member ++ rest = before ++ '"' :: cs ∧ before.all isBlank = true ∧
      key ('"' :: cs) = .ok (m.1, tail) ∧
      ∀ d d' rest', l.member m.1 d tail = .ok (d', rest') ↔ l.Takes m d d' ∧ rest' = rest := by
  cases hmember with
  | @mk before between after body value hbefore hbetween hafter hbody hvalue =>
      obtain ⟨hspells, rfl⟩ := hraw
      refine ⟨before, body ++ '"' :: (between ++ ':' :: (after ++ (m.2 ++ rest))), _, ?_, hbefore,
        ?_, fun d d' rest' => hl.member_eq_ok_iff hbetween hafter hvalue hrest⟩
      · simp
      · rw [key, mark_cons (by decide), ok_bind, wellFormed_eq_ok_iff]
        exact Literal.read?_eq_some_iff.mpr ⟨body, hspells, rfl⟩

omit hl in
theorem bind_member_iff {tail : List Char} {go : δ × List Char → Except Fault (δ × List Char)}
    {r : δ × List Char}
    (h : ∀ d' rest', l.member m.1 d tail = .ok (d', rest') ↔ l.Takes m d d' ∧ rest' = rest) :
    (l.member m.1 d tail >>= go) = .ok r ↔ ∃ d₁, l.Takes m d d₁ ∧ go (d₁, rest) = .ok r := by
  rw [bind_eq_ok_iff]
  constructor
  · rintro ⟨⟨d₁, rest'⟩, hmember, hgo⟩
    obtain ⟨htakes, rfl⟩ := (h d₁ rest').mp hmember
    exact ⟨d₁, htakes, hgo⟩
  · rintro ⟨d₁, htakes, hgo⟩
    exact ⟨(d₁, rest), (h d₁ rest).mpr ⟨htakes, rfl⟩, hgo⟩

theorem members_eq_ok_iff (h : MembersFollow IsValue cs raws)
    (hraws : List.Forall₂ RawMember.IsOf raws ms) {fuel : Nat} (hfuel : ms.length < fuel) :
    l.members fuel false d (cs ++ rest) = .ok (d', rest') ↔ l.Fills ms d d' ∧ rest' = rest := by
  induction h generalizing ms fuel d with
  | @close before hbefore =>
      obtain ⟨fuel, rfl⟩ := Nat.exists_eq_succ_of_ne_zero (Nat.ne_of_gt (Nat.zero_lt_of_lt hfuel))
      obtain rfl := List.forall₂_nil_left_iff.mp hraws
      have hblanks : skipBlanks (before ++ ['}'] ++ rest) = '}' :: rest := by
        rw [List.append_assoc, skipBlanks_append hbefore]
        exact skipBlanks_of_not_isBlank (by decide) rest
      rw [members, hblanks, fills_nil_iff]
      simp [eq_comm]
  | @more before member tail raw raws hbefore hmember h ih =>
      obtain ⟨fuel, rfl⟩ := Nat.exists_eq_succ_of_ne_zero (Nat.ne_of_gt (Nat.zero_lt_of_lt hfuel))
      obtain ⟨m, ms, hraw, hothers, rfl⟩ := List.forall₂_cons_left_iff.mp hraws
      have hblanks : skipBlanks (before ++ ',' :: (member ++ tail) ++ rest) =
          ',' :: (member ++ (tail ++ rest)) := by
        rw [List.append_assoc, skipBlanks_append hbefore]
        simpa using skipBlanks_of_not_isBlank (by decide) (member ++ tail ++ rest)
      obtain ⟨first, cs, after, hcs, hfirst, hkey, hvalue⟩ :=
        hl.exists_key hmember hraw (h.ends rest)
      rw [members, hblanks]
      split
      · rename_i heq
        cases heq
      simp only [Bool.false_eq_true, if_false]
      rw [mark_cons (by decide), ok_bind, hcs, key_append hfirst, hkey, ok_bind,
        bind_member_iff (hvalue d), fills_cons_iff, ← exists_and_right]
      refine exists_congr fun d₁ => ?_
      rw [ih hothers (Nat.lt_of_succ_lt_succ hfuel), and_assoc]

theorem members_first_eq_ok_iff (h : IsMap IsValue ('{' :: cs) raws)
    (hraws : List.Forall₂ RawMember.IsOf raws ms) :
    l.members ((cs ++ rest).length + 1) true d (cs ++ rest) = .ok (d', rest') ↔
      l.Fills ms d d' ∧ rest' = rest := by
  cases h with
  | @empty between hbetween =>
      obtain rfl := List.forall₂_nil_left_iff.mp hraws
      have hblanks : skipBlanks (between ++ ['}'] ++ rest) = '}' :: rest := by
        rw [List.append_assoc, skipBlanks_append hbetween]
        exact skipBlanks_of_not_isBlank (by decide) rest
      rw [members, hblanks, fills_nil_iff]
      simp [eq_comm]
  | @members member tail raw raws hmember h =>
      obtain ⟨m, ms, hraw, hothers, rfl⟩ := List.forall₂_cons_left_iff.mp hraws
      obtain ⟨first, cs, after, hcs, hfirst, hkey, hvalue⟩ :=
        hl.exists_key hmember hraw (h.ends rest)
      have hfuel : ms.length < (first ++ '"' :: cs).length := by
        have hlength := h.length_lt
        rw [hothers.length_eq] at hlength
        rw [← hcs, List.length_append, List.length_append]
        omega
      rw [Layout.members, List.append_assoc, hcs, skipBlanks_append hfirst,
        skipBlanks_of_not_isBlank (by decide)]
      split
      · rename_i heq
        cases heq
      simp only [if_true]
      rw [pure_bind, hkey, ok_bind, bind_member_iff (hvalue d), fills_cons_iff, ← exists_and_right]
      refine exists_congr fun d₁ => ?_
      rw [hl.members_eq_ok_iff h hothers hfuel, and_assoc]

theorem read_eq_ok_iff {before after : List Char} {a : α} (hbefore : before.all isBlank = true)
    (h : IsMap IsValue cs raws) (hraws : List.Forall₂ RawMember.IsOf raws ms) :
    l.read (before ++ (cs ++ after)) = .ok (a, rest) ↔
      (∃ d, l.Fills ms l.blank d ∧ l.finish d = .ok a) ∧ rest = after := by
  obtain ⟨inner, rfl⟩ : ∃ inner, cs = '{' :: inner := by
    cases h <;> exact ⟨_, rfl⟩
  have hhead : Head.read? ('{' :: (inner ++ after)) = some (.map, inner ++ after) := by
    rw [Head.read?, skipBlanks_of_not_isBlank (by decide)]
    rfl
  rw [read, Head.read?_append hbefore, List.cons_append, hhead, wellFormed, ok_bind]
  dsimp only
  rw [bind_eq_ok_iff]
  constructor
  · rintro ⟨⟨d, rest'⟩, hmembers, hfinish⟩
    obtain ⟨hfills, rfl⟩ := (hl.members_first_eq_ok_iff h hraws).mp hmembers
    obtain ⟨a', ha', hpair⟩ := bind_eq_ok_iff.mp hfinish
    cases hpair
    exact ⟨⟨d, hfills, agreeing_eq_ok_iff.mp ha'⟩, rfl⟩
  · rintro ⟨⟨d, hfills, hfinish⟩, rfl⟩
    refine ⟨(d, rest), (hl.members_first_eq_ok_iff h hraws).mpr ⟨hfills, rfl⟩, ?_⟩
    dsimp only
    rw [agreeing_eq_ok_iff.mpr hfinish]
    rfl

/-- A document that holds a map is read exactly if its members fill a draft and a record can be made
of it. -/
theorem document_eq_ok_iff {doc : String} {a : α} (h : IsObject doc ms) :
    document l.read doc = .ok a ↔ ∃ d, l.Fills ms l.blank d ∧ l.finish d = .ok a := by
  obtain ⟨before, cs, after, raws, hdoc, hbefore, hafter, hmap, hraws⟩ := h
  simp only [Json.document_eq_ok_iff, hdoc, hl.read_eq_ok_iff hbefore hmap hraws]
  constructor
  · rintro ⟨rest, ⟨hfills, rfl⟩, -⟩
    exact hfills
  · intro hfills
    exact ⟨after, ⟨hfills, rfl⟩, hafter⟩

end Layout.IsStrict

end Snowflake.Json
