import Snowflake.Json.Fault
import Snowflake.Json.Object
import Snowflake.Proofs.Json.Literal
import Snowflake.Proofs.Json.Numeral
import Snowflake.Proofs.Text.Reader

/-!
Scalars as they are written. Whatever may follow a value in a document, its head is found and the
rest is left.
-/

namespace Snowflake.Json

/-- `value` is read as `head`, whatever follows it that cannot be a part of it. -/
def Denotes (value : List Char) (head : Head) : Prop :=
  ∀ rest, Numeral.Ends rest → Head.read? (value ++ rest) = some (head, rest)

theorem skipBlanks_of_not_isBlank {c : Char} (h : isBlank c = false) (rest : List Char) :
    skipBlanks (c :: rest) = c :: rest := by
  simp [skipBlanks, h]

theorem isBlank_of_isDigit {c : Char} (h : c.isDigit = true) : isBlank c = false := by
  have hc := Decimal.toNat_of_isDigit h
  by_contra hblank
  simp only [isBlank, Bool.not_eq_false, Bool.or_eq_true, beq_iff_eq] at hblank
  obtain ((rfl | rfl) | rfl) | rfl := hblank
  all_goals exact absurd hc (by decide)

namespace Head

/-- What starts neither a word, a text nor a bracket is taken for a numeral. -/
theorem read?_of_numeral {c : Char} {cs : List Char} (h : c = '-' ∨ c.isDigit = true) :
    read? (c :: cs) = (do
      let (numeral, rest) ← Numeral.read? (c :: cs)
      pure (number (← numeral.value?), rest)) := by
  have hne {d : Char} (hminus : d ≠ '-') (hd : d.isDigit = false) : c ≠ d := by
    rintro rfl
    rcases h with h | h
    · exact hminus h
    · rw [hd] at h
      cases h
  have hblank : isBlank c = false := by
    rcases h with rfl | h
    · rfl
    · exact isBlank_of_isDigit h
  rw [read?, skipBlanks_of_not_isBlank hblank]
  split
  · rename_i heq
    cases heq
  -- The characters with which the other values start.
  iterate 6
    · rename_i heq
      exact absurd (List.cons.inj heq).1 (hne (by decide) (by decide))
  · rfl

theorem read?_append_of_spells {cs rest : List Char} {x : Numeral} (h : Numeral.Spells cs x)
    (hrest : Numeral.Ends rest) :
    read? (cs ++ rest) = x.value?.map fun n => (number n, rest) := by
  have hread := Numeral.read?_append h hrest
  obtain ⟨c, tail, rfl, hc⟩ := h.exists_eq_cons
  rw [List.cons_append] at hread ⊢
  rw [read?_of_numeral hc, hread, Option.bind_eq_bind, Option.bind_some, Option.map_eq_bind]
  rfl

theorem read?_quote (cs : List Char) :
    read? ('"' :: cs) = (Literal.read? cs).map fun (s, rest) => (text s, rest) := by
  simp [read?, skipBlanks, isBlank]

end Head

theorem denotes_of_spells {body : List Char} {s : String} (h : Literal.Spells body s.toList) :
    Denotes ('"' :: (body ++ ['"'])) (.text s) := by
  intro rest _
  have hread : Literal.read? (body ++ '"' :: rest) = some (s, rest) :=
    Literal.read?_eq_some_iff.mpr ⟨body, h, rfl⟩
  rw [List.cons_append, List.append_assoc, List.singleton_append, Head.read?_quote, hread]
  rfl

theorem denotes_write (s : String) : Denotes (Literal.write s) (.text s) :=
  denotes_of_spells (Literal.spells_flatMap_escape s.toList)

theorem denotes_null : Denotes ['n', 'u', 'l', 'l'] .null := by
  intro rest _
  rfl

theorem denotes_digits {n : Nat} (h : n < 0x10000000000000000) :
    Denotes (Decimal.digits n) (.number (.integer n)) := by
  intro rest hrest
  rw [Head.read?_append_of_spells (Numeral.spells_digits n) hrest, Numeral.value?_digits h]
  rfl

end Snowflake.Json
