import Snowflake.Json.Literal
import Snowflake.Proofs.Text.Decimal

/-!
The grammar of text literals. Reading takes exactly the bodies of the grammar, and writing gives one
of them: a text that was written is read back.
-/

namespace Snowflake.Json.Literal

/-- The body of a literal, and the characters that it spells: characters as they are, escapes of two
characters, code units in hexadecimal, and pairs of these for a character beyond 16 bits. -/
inductive Spells : List Char → List Char → Prop where
  | nil : Spells [] []
  | plain {c : Char} {body cs : List Char} (hcontrol : 0x20 ≤ c.toNat) (hquote : c ≠ '"')
      (hbackslash : c ≠ '\\') (h : Spells body cs) : Spells (c :: body) (c :: cs)
  | short {e c : Char} {body cs : List Char} (hshort : shortEscape? e = some c)
      (h : Spells body cs) : Spells ('\\' :: e :: body) (c :: cs)
  | unit {d₁ d₂ d₃ d₄ c : Char} {body cs : List Char}
      (hunit : hexUnit? d₁ d₂ d₃ d₄ = some c.toNat) (h : Spells body cs) :
      Spells ('\\' :: 'u' :: d₁ :: d₂ :: d₃ :: d₄ :: body) (c :: cs)
  | pair {d₁ d₂ d₃ d₄ e₁ e₂ e₃ e₄ c : Char} {high low : Nat} {body cs : List Char}
      (hhigh : hexUnit? d₁ d₂ d₃ d₄ = some high) (hlow : hexUnit? e₁ e₂ e₃ e₄ = some low)
      (hhigh' : isHighSurrogate high = true) (hlow' : isLowSurrogate low = true)
      (hc : c.toNat = 0x10000 + (high - 0xD800) * 0x400 + (low - 0xDC00)) (h : Spells body cs) :
      Spells ('\\' :: 'u' :: d₁ :: d₂ :: d₃ :: d₄ :: '\\' :: 'u' :: e₁ :: e₂ :: e₃ :: e₄ :: body)
        (c :: cs)

/-- The body of a literal, in which surrogates need not come in pairs. -/
inductive IsBody : List Char → Prop where
  | nil : IsBody []
  | plain {c : Char} {body : List Char} (hcontrol : 0x20 ≤ c.toNat) (hquote : c ≠ '"')
      (hbackslash : c ≠ '\\') (h : IsBody body) : IsBody (c :: body)
  | short {e c : Char} {body : List Char} (hshort : shortEscape? e = some c) (h : IsBody body) :
      IsBody ('\\' :: e :: body)
  | unit {d₁ d₂ d₃ d₄ : Char} {n : Nat} {body : List Char} (hunit : hexUnit? d₁ d₂ d₃ d₄ = some n)
      (h : IsBody body) : IsBody ('\\' :: 'u' :: d₁ :: d₂ :: d₃ :: d₄ :: body)

/-- Characters are Unicode scalar values, which leave out the surrogates. -/
theorem not_isSurrogate (c : Char) :
    isHighSurrogate c.toNat = false ∧ isLowSurrogate c.toNat = false := by
  have hvalid := c.valid
  simp only [UInt32.isValidChar, Nat.isValidChar] at hvalid
  simp only [isHighSurrogate, isLowSurrogate, Char.toNat, Bool.and_eq_false_iff,
    decide_eq_false_iff_not]
  omega

theorem hexDigit?_ne {c : Char} {n : Nat} (h : hexDigit? c = some n) : c ≠ '"' ∧ c ≠ '\\' := by
  constructor
  · rintro rfl
    cases h
  · rintro rfl
    cases h

theorem hexUnit?_eq_some_iff {a b c d : Char} {n : Nat} :
    hexUnit? a b c d = some n ↔ ∃ i j k l, hexDigit? a = some i ∧ hexDigit? b = some j ∧
      hexDigit? c = some k ∧ hexDigit? d = some l ∧ n = ((i * 16 + j) * 16 + k) * 16 + l := by
  simp only [hexUnit?, Option.bind_eq_bind, Option.bind_eq_some_iff, Option.pure_def,
    Option.some.injEq]
  grind

theorem hexDigit?_lt {c : Char} {n : Nat} (h : hexDigit? c = some n) : n < 16 := by
  simp only [hexDigit?, Char.isDigit, ge_iff_le, Char.le_def, UInt32.le_iff_toNat_le,
    Bool.and_eq_true, decide_eq_true_eq] at h
  split at h
  · rename_i hdigit
    obtain rfl := Option.some_inj.mp h
    have hle : c.toNat ≤ 57 := hdigit.2
    omega
  split at h
  · rename_i hlower
    obtain rfl := Option.some_inj.mp h
    have hle : c.toNat ≤ 102 := hlower.2
    omega
  split at h
  · rename_i hupper
    obtain rfl := Option.some_inj.mp h
    have hle : c.toNat ≤ 70 := hupper.2
    omega
  · cases h

theorem hexUnit?_lt {a b c d : Char} {n : Nat} (h : hexUnit? a b c d = some n) : n < 0x10000 := by
  obtain ⟨i, j, k, l, hi, hj, hk, hl, hn⟩ := hexUnit?_eq_some_iff.mp h
  have hi := hexDigit?_lt hi
  have hj := hexDigit?_lt hj
  have hk := hexDigit?_lt hk
  have hl := hexDigit?_lt hl
  omega

section Steps

variable {body cs : List Char} {us : List Nat}

theorem split?_plain {c : Char} (hquote : c ≠ '"') (hbackslash : c ≠ '\\') :
    split? (c :: cs) = (split? cs).map fun (body, rest) => (c :: body, rest) := by
  rw [split?]
  · exact hquote
  · intro _ _ h
    exact absurd h hbackslash

theorem split?_escape (e : Char) :
    split? ('\\' :: e :: cs) = (split? cs).map fun (body, rest) => ('\\' :: e :: body, rest) := by
  rw [split?]

theorem units?_plain {c : Char} (hcontrol : 0x20 ≤ c.toNat) (hbackslash : c ≠ '\\') :
    units? (c :: body) = (units? body).map (c.toNat :: ·) := by
  rw [units?, if_neg (by simp [hbackslash, hcontrol])]
  · intro _ _ _ _ _ h
    exact absurd h hbackslash
  · intro _ _ h
    exact absurd h hbackslash

theorem units?_short {e c : Char} (h : shortEscape? e = some c) :
    units? ('\\' :: e :: body) = (units? body).map (c.toNat :: ·) := by
  rw [units?]
  · rw [h, Option.map_eq_bind]
    rfl
  · rintro _ _ _ _ _ rfl
    cases h

theorem units?_unit {d₁ d₂ d₃ d₄ : Char} {n : Nat} (h : hexUnit? d₁ d₂ d₃ d₄ = some n) :
    units? ('\\' :: 'u' :: d₁ :: d₂ :: d₃ :: d₄ :: body) = (units? body).map (n :: ·) := by
  rw [units?, h, Option.map_eq_bind]
  rfl

theorem chars?_single {n : Nat} (hhigh : isHighSurrogate n = false)
    (hlow : isLowSurrogate n = false) : chars? (n :: us) = (chars? us).map (Char.ofNat n :: ·) := by
  cases us with
  | nil => simp [chars?, hhigh, hlow]
  | cons u us => simp [chars?, hhigh, hlow]

theorem chars?_char (c : Char) : chars? (c.toNat :: us) = (chars? us).map (c :: ·) := by
  rw [chars?_single (not_isSurrogate c).1 (not_isSurrogate c).2, Char.ofNat_toNat]

theorem chars?_pair {high low : Nat} (hhigh : isHighSurrogate high = true)
    (hlow : isLowSurrogate low = true) :
    chars? (high :: low :: us) =
      (chars? us).map (Char.ofNat (0x10000 + (high - 0xD800) * 0x400 + (low - 0xDC00)) :: ·) := by
  simp [chars?, hhigh, hlow]

end Steps

theorem IsBody.split?_append {body : List Char} (h : IsBody body) (rest : List Char) :
    split? (body ++ '"' :: rest) = some (body, rest) := by
  induction h with
  | nil => rfl
  | plain hcontrol hquote hbackslash h ih =>
      rw [List.cons_append, split?_plain hquote hbackslash, ih]
      rfl
  | short hshort h ih =>
      rw [List.cons_append, List.cons_append, split?_escape, ih]
      rfl
  | unit hunit h ih =>
      obtain ⟨i, j, k, l, h₁, h₂, h₃, h₄, -⟩ := hexUnit?_eq_some_iff.mp hunit
      simp only [List.cons_append]
      rw [split?_escape, split?_plain (hexDigit?_ne h₁).1 (hexDigit?_ne h₁).2,
        split?_plain (hexDigit?_ne h₂).1 (hexDigit?_ne h₂).2,
        split?_plain (hexDigit?_ne h₃).1 (hexDigit?_ne h₃).2,
        split?_plain (hexDigit?_ne h₄).1 (hexDigit?_ne h₄).2, ih]
      rfl

theorem IsBody.read?_append {body : List Char} (h : IsBody body) (rest : List Char) :
    read? (body ++ '"' :: rest) =
      ((units? body).bind chars?).map fun cs => (String.ofList cs, rest) := by
  simp only [read?, h.split?_append, Option.bind_eq_bind, Option.bind_some, Option.pure_def,
    Option.map_eq_bind, Option.bind_assoc]
  rfl

namespace Spells

variable {body cs : List Char}

theorem isBody (h : Spells body cs) : IsBody body := by
  induction h with
  | nil => exact .nil
  | plain hcontrol hquote hbackslash h ih => exact .plain hcontrol hquote hbackslash ih
  | short hshort h ih => exact .short hshort ih
  | unit hunit h ih => exact .unit hunit ih
  | pair hhigh hlow hhigh' hlow' hc h ih => exact .unit hhigh (.unit hlow ih)

theorem exists_units? (h : Spells body cs) :
    ∃ us, units? body = some us ∧ chars? us = some cs := by
  induction h with
  | nil => exact ⟨[], rfl, rfl⟩
  | plain hcontrol hquote hbackslash h ih =>
      obtain ⟨us, hus, hcs⟩ := ih
      exact ⟨_, by rw [units?_plain hcontrol hbackslash, hus]; rfl, by rw [chars?_char, hcs]; rfl⟩
  | short hshort h ih =>
      obtain ⟨us, hus, hcs⟩ := ih
      exact ⟨_, by rw [units?_short hshort, hus]; rfl, by rw [chars?_char, hcs]; rfl⟩
  | unit hunit h ih =>
      obtain ⟨us, hus, hcs⟩ := ih
      exact ⟨_, by rw [units?_unit hunit, hus]; rfl, by rw [chars?_char, hcs]; rfl⟩
  | pair hhigh hlow hhigh' hlow' hc h ih =>
      obtain ⟨us, hus, hcs⟩ := ih
      refine ⟨_, by rw [units?_unit hhigh, units?_unit hlow, hus]; rfl, ?_⟩
      rw [chars?_pair hhigh' hlow', hcs, ← hc, Char.ofNat_toNat]
      rfl

end Spells

/-- No quote in `body` would close a literal. -/
def Closed (body : List Char) : Prop :=
  ∀ rest, split? (body ++ '"' :: rest) = some (body, rest)

theorem closed_of_plain {c : Char} {body : List Char} (hbackslash : c ≠ '\\')
    (h : Closed (c :: body)) : c ≠ '"' ∧ Closed body := by
  have hquote : c ≠ '"' := by
    rintro rfl
    have := h []
    simp [split?] at this
  refine ⟨hquote, fun rest => ?_⟩
  have hrest := h rest
  rw [List.cons_append, split?_plain hquote hbackslash, Option.map_eq_some_iff] at hrest
  obtain ⟨⟨body', rest'⟩, hsplit, heq⟩ := hrest
  cases heq
  exact hsplit

theorem closed_of_escape {e : Char} {body : List Char} (h : Closed ('\\' :: e :: body)) :
    Closed body := by
  intro rest
  have hrest := h rest
  rw [List.cons_append, List.cons_append, split?_escape, Option.map_eq_some_iff] at hrest
  obtain ⟨⟨body', rest'⟩, hsplit, heq⟩ := hrest
  cases heq
  exact hsplit

theorem closed_hex {d₁ d₂ d₃ d₄ : Char} {n : Nat} {body : List Char}
    (hunit : hexUnit? d₁ d₂ d₃ d₄ = some n)
    (h : Closed ('\\' :: 'u' :: d₁ :: d₂ :: d₃ :: d₄ :: body)) : Closed body := by
  obtain ⟨i, j, k, l, h₁, h₂, h₃, h₄, -⟩ := hexUnit?_eq_some_iff.mp hunit
  have hclosed₁ := (closed_of_plain (hexDigit?_ne h₁).2 (closed_of_escape h)).2
  have hclosed₂ := (closed_of_plain (hexDigit?_ne h₂).2 hclosed₁).2
  have hclosed₃ := (closed_of_plain (hexDigit?_ne h₃).2 hclosed₂).2
  exact (closed_of_plain (hexDigit?_ne h₄).2 hclosed₃).2

theorem eq_append_of_split? {cs body rest : List Char} (h : split? cs = some (body, rest)) :
    cs = body ++ '"' :: rest ∧ Closed body := by
  fun_induction split? cs generalizing body with
  | case1 => cases h
  | case2 rest' =>
      cases h
      exact ⟨rfl, fun rest => rfl⟩
  | case3 e cs ih =>
      obtain ⟨⟨body', rest'⟩, hsplit, heq⟩ := Option.map_eq_some_iff.mp h
      cases heq
      obtain ⟨rfl, hclosed⟩ := ih hsplit
      refine ⟨rfl, fun rest => ?_⟩
      rw [List.cons_append, List.cons_append, split?_escape, hclosed]
      rfl
  | case4 c cs hquote hescape ih =>
      obtain ⟨⟨body', rest'⟩, hsplit, heq⟩ := Option.map_eq_some_iff.mp h
      cases heq
      obtain ⟨rfl, hclosed⟩ := ih hsplit
      -- A backslash with something after it is the case before.
      have hbackslash : c ≠ '\\' := by
        intro hc
        cases body' with
        | nil => exact hescape _ _ hc rfl
        | cons d body' => exact hescape _ _ hc rfl
      refine ⟨rfl, fun rest => ?_⟩
      rw [List.cons_append, split?_plain hquote hbackslash, hclosed]
      rfl

/-- The first code unit of a body is a character, however it is written, or is written in
hexadecimal. -/
theorem units?_cases {body : List Char} {n : Nat} {us : List Nat} (hclosed : Closed body)
    (h : units? body = some (n :: us)) :
    ∃ tail, Closed tail ∧ units? tail = some us ∧ tail.length < body.length ∧
      ((∃ c : Char, n = c.toNat ∧ ∀ cs, Spells tail cs → Spells body (c :: cs)) ∨
        ∃ d₁ d₂ d₃ d₄, body = '\\' :: 'u' :: d₁ :: d₂ :: d₃ :: d₄ :: tail ∧
          hexUnit? d₁ d₂ d₃ d₄ = some n) := by
  rw [units?.eq_def] at h
  split at h
  · cases h
  · rename_i d₁ d₂ d₃ d₄ tail
    simp only [Option.bind_eq_bind, Option.bind_eq_some_iff, Option.pure_def, Option.some.injEq,
      List.cons.injEq] at h
    obtain ⟨n', hunit, us', hus, rfl, rfl⟩ := h
    exact ⟨tail, closed_hex hunit hclosed, hus, by simp; omega,
      .inr ⟨d₁, d₂, d₃, d₄, rfl, hunit⟩⟩
  · rename_i e tail _
    simp only [Option.bind_eq_bind, Option.bind_eq_some_iff, Option.pure_def, Option.some.injEq,
      List.cons.injEq] at h
    obtain ⟨c, hshort, us', hus, rfl, rfl⟩ := h
    exact ⟨tail, closed_of_escape hclosed, hus, by simp,
      .inl ⟨c, rfl, fun cs hcs => .short hshort hcs⟩⟩
  · rename_i c tail _ _
    split at h
    · cases h
    · rename_i hplain
      obtain ⟨us', hus, heq⟩ := Option.map_eq_some_iff.mp h
      obtain ⟨rfl, rfl⟩ := List.cons.inj heq
      obtain ⟨hcontrol, hbackslash⟩ := not_or.mp hplain
      obtain ⟨hquote, htail⟩ := closed_of_plain hbackslash hclosed
      exact ⟨tail, htail, hus, by simp,
        .inl ⟨c, rfl, fun cs hcs => .plain (Nat.not_lt.mp hcontrol) hquote hbackslash hcs⟩⟩

theorem toNat_ofNat_of_not_surrogate {n : Nat} (hn : n < 0x10000) (hhigh : isHighSurrogate n = false)
    (hlow : isLowSurrogate n = false) : (Char.ofNat n).toNat = n := by
  simp only [isHighSurrogate, isLowSurrogate, Bool.and_eq_false_iff, decide_eq_false_iff_not] at *
  rw [Char.toNat_ofNat, if_pos]
  simp only [Nat.isValidChar]
  omega

theorem toNat_ofNat_pair {high low : Nat} (hhigh : isHighSurrogate high = true)
    (hlow : isLowSurrogate low = true) :
    (Char.ofNat (0x10000 + (high - 0xD800) * 0x400 + (low - 0xDC00))).toNat =
      0x10000 + (high - 0xD800) * 0x400 + (low - 0xDC00) := by
  simp only [isHighSurrogate, isLowSurrogate, Bool.and_eq_true, decide_eq_true_eq] at *
  rw [Char.toNat_ofNat, if_pos]
  simp only [Nat.isValidChar]
  omega

theorem eq_nil_of_units? {body : List Char} (h : units? body = some []) : body = [] := by
  rw [units?.eq_def] at h
  split at h
  · rfl
  · simp [Option.bind_eq_some_iff] at h
  · simp [Option.bind_eq_some_iff] at h
  · split at h
    · cases h
    · simp at h

theorem exists_low_of_chars? {high : Nat} {us : List Nat} {cs : List Char}
    (hhigh : isHighSurrogate high = true) (h : chars? (high :: us) = some cs) :
    ∃ low us', us = low :: us' ∧ isLowSurrogate low = true := by
  cases us with
  | nil => simp [chars?, hhigh] at h
  | cons low us =>
      refine ⟨low, us, rfl, ?_⟩
      by_contra hlow
      simp [chars?, hhigh, hlow] at h

theorem not_isLowSurrogate_of_chars? {n : Nat} {us : List Nat} {cs : List Char}
    (hhigh : isHighSurrogate n = false) (h : chars? (n :: us) = some cs) :
    isLowSurrogate n = false := by
  by_contra hlow
  cases us with
  | nil => simp [chars?, hlow] at h
  | cons u us => simp [chars?, hhigh, hlow] at h

theorem spells_of_units? {body cs : List Char} {us : List Nat} (hclosed : Closed body)
    (hus : units? body = some us) (hcs : chars? us = some cs) : Spells body cs := by
  induction hlength : body.length using Nat.strong_induction_on generalizing body us cs with
  | _ length ih =>
      subst hlength
      cases us with
      | nil =>
          cases hcs
          rw [eq_nil_of_units? hus]
          exact .nil
      | cons n us =>
          obtain ⟨tail, htail, hus', hlength, ⟨c, rfl, hspells⟩ | ⟨d₁, d₂, d₃, d₄, rfl, hunit⟩⟩ :=
            units?_cases hclosed hus
          · rw [chars?_char] at hcs
            obtain ⟨cs', hcs', rfl⟩ := Option.map_eq_some_iff.mp hcs
            exact hspells cs' (ih _ hlength htail hus' hcs' rfl)
          by_cases hhigh : isHighSurrogate n = true
          · -- The unit that follows belongs to the same character, and is no character itself.
            obtain ⟨low, us, rfl, hlow⟩ := exists_low_of_chars? hhigh hcs
            obtain ⟨tail', htail', hus'', hlength', ⟨c, rfl, -⟩ | ⟨e₁, e₂, e₃, e₄, rfl, hunit'⟩⟩ :=
              units?_cases htail hus'
            · exact absurd hlow (by simp [(not_isSurrogate c).2])
            rw [chars?_pair hhigh hlow] at hcs
            obtain ⟨cs', hcs', rfl⟩ := Option.map_eq_some_iff.mp hcs
            exact .pair hunit hunit' hhigh hlow (toNat_ofNat_pair hhigh hlow)
              (ih _ (hlength'.trans hlength) htail' hus'' hcs' rfl)
          · rw [Bool.not_eq_true] at hhigh
            have hlow := not_isLowSurrogate_of_chars? hhigh hcs
            rw [chars?_single hhigh hlow] at hcs
            obtain ⟨cs', hcs', rfl⟩ := Option.map_eq_some_iff.mp hcs
            have hn := toNat_ofNat_of_not_surrogate (hexUnit?_lt hunit) hhigh hlow
            exact .unit (by rwa [hn]) (ih _ hlength htail hus' hcs' rfl)

/-- Exactly the bodies of the grammar are read, each as the text that it spells. -/
theorem read?_eq_some_iff {cs rest : List Char} {s : String} :
    read? cs = some (s, rest) ↔ ∃ body, Spells body s.toList ∧ cs = body ++ '"' :: rest := by
  constructor
  · intro h
    simp only [read?, Option.bind_eq_bind, Option.bind_eq_some_iff, Option.pure_def,
      Option.some.injEq, Prod.mk.injEq, Prod.exists] at h
    obtain ⟨body, rest', hsplit, us, hus, cs', hcs, rfl, rfl⟩ := h
    obtain ⟨rfl, hclosed⟩ := eq_append_of_split? hsplit
    exact ⟨body, by rw [String.toList_ofList]; exact spells_of_units? hclosed hus hcs, rfl⟩
  · rintro ⟨body, hspells, rfl⟩
    obtain ⟨us, hus, hcs⟩ := hspells.exists_units?
    simp [read?, hspells.isBody.split?_append, hus, hcs]

section Write

theorem hexUnit?_digitChar : ∀ n < 0x10, hexUnit? '0' '0' '0' (Nat.digitChar n) = some n := by
  decide

theorem hexUnit?_digitChar_add :
    ∀ n < 0x10, hexUnit? '0' '0' '1' (Nat.digitChar n) = some (0x10 + n) := by
  decide

theorem spells_escape_append (c : Char) {body cs : List Char} (h : Spells body cs) :
    Spells (escape c ++ body) (c :: cs) := by
  rw [escape]
  -- The seven characters with an escape of their own.
  iterate 7
    split
    · rename_i hc
      exact .short (by rw [hc]; rfl) h
  split
  · rename_i hc
    exact .unit (hexUnit?_digitChar c.toNat hc) h
  split
  · rename_i hlow hc
    refine .unit ?_ h
    rw [hexUnit?_digitChar_add _ (by omega)]
    congr 1
    omega
  · rename_i hquote hbackslash _ _ _ _ _ _ hcontrol
    exact .plain (Nat.not_lt.mp hcontrol) hquote hbackslash h

theorem spells_flatMap_escape (cs : List Char) : Spells (cs.flatMap escape) cs := by
  induction cs with
  | nil => exact .nil
  | cons c cs ih =>
      rw [List.flatMap_cons]
      exact spells_escape_append c ih

/-- Digits may stand for themselves. -/
theorem spells_of_isDigit {ds : List Char} (h : ds.all Char.isDigit = true) : Spells ds ds := by
  induction ds with
  | nil => exact .nil
  | cons d ds ih =>
      rw [List.all_cons, Bool.and_eq_true] at h
      have hd : d.isDigit = true := h.1
      have hcode : 48 ≤ d.toNat := (Decimal.toNat_of_isDigit hd).1
      refine .plain (by omega) ?_ ?_ (ih h.2)
      · rintro rfl
        cases hd
      · rintro rfl
        cases hd

theorem read?_write (s : String) (rest : List Char) :
    read? (s.toList.flatMap escape ++ '"' :: rest) = some (s, rest) :=
  read?_eq_some_iff.mpr ⟨_, spells_flatMap_escape s.toList, rfl⟩

end Write

end Snowflake.Json.Literal
