import Snowflake.Json.Numeral
import Snowflake.Proofs.Text.Decimal

/-!
The grammar of numerals. Every numeral of the grammar is read to its end, whatever follows that
cannot be a part of it, and nothing else is read. The integers from zero on are the plain digits.
-/

namespace Snowflake.Json.Numeral

/-- One digit or more. -/
def AreDigits (ds : List Char) : Prop :=
  ds ≠ [] ∧ ds.all Char.isDigit = true

inductive SpellsSign : List Char → Bool → Prop where
  | none : SpellsSign [] false
  | minus : SpellsSign ['-'] true

/-- A whole part has no zero in front, unless it is zero itself. -/
structure SpellsWhole (ds : List Char) : Prop where
  digits : AreDigits ds
  zero : ds.head? = some '0' → ds = ['0']

inductive SpellsFraction : List Char → List Char → Prop where
  | none : SpellsFraction [] []
  | point {ds : List Char} (h : AreDigits ds) : SpellsFraction ('.' :: ds) ds

inductive SpellsPower : List Char → Int → Prop where
  | plain {ds : List Char} (h : AreDigits ds) : SpellsPower ds (Nat.ofDigitChars 10 ds 0)
  | plus {ds : List Char} (h : AreDigits ds) : SpellsPower ('+' :: ds) (Nat.ofDigitChars 10 ds 0)
  | minus {ds : List Char} (h : AreDigits ds) : SpellsPower ('-' :: ds) (-Nat.ofDigitChars 10 ds 0)

inductive SpellsExponent : List Char → Option Int → Prop where
  | none : SpellsExponent [] none
  | power {e : Char} {cs : List Char} {n : Int} (he : e = 'e' ∨ e = 'E') (h : SpellsPower cs n) :
      SpellsExponent (e :: cs) (some n)

/-- The characters `cs` are the numeral `x`. -/
inductive Spells : List Char → Numeral → Prop where
  | mk {sign whole point power fraction : List Char} {negative : Bool} {exponent : Option Int}
      (hsign : SpellsSign sign negative) (hwhole : SpellsWhole whole)
      (hfraction : SpellsFraction point fraction) (hexponent : SpellsExponent power exponent) :
      Spells (sign ++ (whole ++ (point ++ power))) ⟨negative, whole, fraction, exponent⟩

/-- What may follow a numeral without being taken for a part of it. -/
def Ends (rest : List Char) : Prop :=
  ∀ c ∈ rest.head?, c.isDigit = false ∧ c ≠ '.' ∧ c ≠ 'e' ∧ c ≠ 'E'

section Read

variable {cs ds rest : List Char}

theorem ends_nil : Ends [] := by
  rintro c ⟨⟩

theorem Ends.decimal (h : Ends rest) : Decimal.Ends rest :=
  fun c hc => (h c hc).1

theorem digits_append (h : AreDigits ds) (hrest : Decimal.Ends rest) :
    digits (ds ++ rest) = (ds, rest) := by
  rw [digits, Decimal.takeWhile_append h.2 hrest, Decimal.dropWhile_append h.2 hrest]

theorem readSign_append {negative : Bool} (h : SpellsSign cs negative) (hds : AreDigits ds) :
    readSign (cs ++ (ds ++ rest)) = (negative, ds ++ rest) := by
  obtain ⟨c, ds, rfl, hc⟩ := Decimal.exists_eq_cons hds.1 hds.2
  cases h with
  | none =>
      rw [List.nil_append, List.cons_append, readSign]
      intro tail heq
      obtain rfl := (List.cons.inj heq).1
      exact absurd hc (by decide)
  | minus => rfl

theorem readWhole?_append (h : SpellsWhole ds) (hrest : Decimal.Ends rest) :
    readWhole? (ds ++ rest) = some (ds, rest) := by
  rw [readWhole?, digits_append h.digits hrest]
  split
  · rename_i heq
    exact absurd (Prod.mk.inj heq).1 h.digits.1
  · rename_i heq
    obtain ⟨rfl, -⟩ := Prod.mk.inj heq
    cases h.zero rfl
  · rename_i heq
    cases heq
    rfl

theorem readFraction?_append (h : SpellsFraction cs ds) (hrest : Decimal.Ends rest)
    (hpoint : rest.head? ≠ some '.') : readFraction? (cs ++ rest) = some (ds, rest) := by
  cases h with
  | none =>
      rw [List.nil_append, readFraction?]
      rintro tail rfl
      exact hpoint rfl
  | point hds =>
      rw [List.cons_append, readFraction?, digits_append hds hrest]
      split
      · rename_i heq
        exact absurd (Prod.mk.inj heq).1 hds.1
      · rename_i heq
        cases heq
        rfl

theorem readPower?_append (h : AreDigits ds) (hrest : Decimal.Ends rest) (sign : Int) :
    readPower? sign (ds ++ rest) = some (some (sign * Nat.ofDigitChars 10 ds 0), rest) := by
  rw [readPower?, digits_append h hrest]
  split
  · rename_i heq
    exact absurd (Prod.mk.inj heq).1 h.1
  · rename_i heq
    cases heq
    rfl

theorem readExponent?_append {exponent : Option Int} (h : SpellsExponent cs exponent)
    (hrest : Ends rest) : readExponent? (cs ++ rest) = some (exponent, rest) := by
  cases h with
  | none =>
      cases rest with
      | nil => rfl
      | cons c cs =>
          obtain ⟨-, -, he, hE⟩ := hrest c rfl
          simp [readExponent?, he, hE]
  | power he h =>
      cases h with
      | plain hds =>
          obtain ⟨c, ds, rfl, hc⟩ := Decimal.exists_eq_cons hds.1 hds.2
          have hsign (d : Char) (hd : d.isDigit = false) (tail : List Char) :
              c :: ds ++ rest ≠ d :: tail := by
            intro heq
            obtain rfl := (List.cons.inj heq).1
            rw [hc] at hd
            cases hd
          rw [List.cons_append, readExponent?, if_pos he, readPower?_append hds hrest.decimal,
            one_mul]
          · exact hsign '+' rfl
          · exact hsign '-' rfl
      | plus hds =>
          rw [List.cons_append, List.cons_append, readExponent?, if_pos he,
            readPower?_append hds hrest.decimal, one_mul]
      | minus hds =>
          rw [List.cons_append, List.cons_append, readExponent?, if_pos he,
            readPower?_append hds hrest.decimal, neg_one_mul]

theorem SpellsExponent.append_ends {exponent : Option Int} (h : SpellsExponent cs exponent)
    (hrest : Ends rest) : Decimal.Ends (cs ++ rest) ∧ (cs ++ rest).head? ≠ some '.' := by
  cases h with
  | none => exact ⟨hrest.decimal, fun hpoint => (hrest '.' hpoint).2.1 rfl⟩
  | power he h =>
      refine ⟨Decimal.ends_cons ?_, ?_⟩
      · rcases he with rfl | rfl <;> rfl
      · rcases he with rfl | rfl <;> simp

theorem SpellsFraction.append_ends (h : SpellsFraction cs ds) (hrest : Decimal.Ends rest) :
    Decimal.Ends (cs ++ rest) := by
  cases h with
  | none => exact hrest
  | point hds => exact Decimal.ends_cons rfl

theorem Spells.exists_eq_cons {x : Numeral} (h : Spells cs x) :
    ∃ c tail, cs = c :: tail ∧ (c = '-' ∨ c.isDigit = true) := by
  cases h with
  | mk hsign hwhole hfraction hexponent =>
      obtain ⟨c, ds, rfl, hc⟩ := Decimal.exists_eq_cons hwhole.digits.1 hwhole.digits.2
      cases hsign with
      | none => exact ⟨c, _, rfl, .inr hc⟩
      | minus => exact ⟨'-', _, rfl, .inl rfl⟩

/-- A numeral is read to its end. -/
theorem read?_append {x : Numeral} (h : Spells cs x) (hrest : Ends rest) :
    read? (cs ++ rest) = some (x, rest) := by
  cases h with
  | @mk sign whole point power fraction negative exponent hsign hwhole hfraction hexponent =>
      obtain ⟨hends, hpoint⟩ := hexponent.append_ends hrest
      simp only [List.append_assoc, read?, readSign_append hsign hwhole.digits,
        readWhole?_append hwhole (hfraction.append_ends hends),
        readFraction?_append hfraction hends hpoint, readExponent?_append hexponent hrest,
        Option.bind_eq_bind, Option.bind_some, Option.pure_def]

end Read

section Taken

variable {cs ds rest : List Char}

theorem areDigits_of_digits (h : digits cs = (ds, rest)) (hne : ds ≠ []) :
    cs = ds ++ rest ∧ AreDigits ds := by
  obtain ⟨rfl, rfl⟩ := Prod.mk.inj h
  exact ⟨List.takeWhile_append_dropWhile.symm, hne, List.all_takeWhile⟩

theorem exists_spellsSign {negative : Bool} (h : readSign cs = (negative, rest)) :
    ∃ sign, cs = sign ++ rest ∧ SpellsSign sign negative := by
  rw [readSign.eq_def] at h
  split at h
  · cases h
    exact ⟨['-'], rfl, .minus⟩
  · cases h
    exact ⟨[], rfl, .none⟩

theorem spellsWhole_of_readWhole? (h : readWhole? cs = some (ds, rest)) :
    cs = ds ++ rest ∧ SpellsWhole ds := by
  rw [readWhole?] at h
  split at h
  · cases h
  · cases h
  · rename_i ds' rest' hempty hzero hdigits
    cases h
    obtain ⟨rfl, hds⟩ := areDigits_of_digits hdigits hempty
    refine ⟨rfl, hds, fun hhead => ?_⟩
    obtain ⟨tail, rfl⟩ := List.head?_eq_some_iff.mp hhead
    cases tail with
    | nil => rfl
    | cons d tail => exact absurd rfl (hzero d tail)

theorem exists_spellsFraction (h : readFraction? cs = some (ds, rest)) :
    ∃ point, cs = point ++ rest ∧ SpellsFraction point ds := by
  rw [readFraction?.eq_def] at h
  split at h
  · split at h
    · cases h
    · rename_i ds' rest' hempty hdigits
      cases h
      obtain ⟨rfl, hds⟩ := areDigits_of_digits hdigits hempty
      exact ⟨'.' :: ds, rfl, .point hds⟩
  · cases h
    exact ⟨[], rfl, .none⟩

theorem exists_areDigits_of_readPower? {sign : Int} {exponent : Option Int}
    (h : readPower? sign cs = some (exponent, rest)) :
    ∃ ds, cs = ds ++ rest ∧ AreDigits ds ∧
      exponent = some (sign * Nat.ofDigitChars 10 ds 0) := by
  rw [readPower?] at h
  split at h
  · cases h
  · rename_i ds rest' hempty hdigits
    cases h
    obtain ⟨rfl, hds⟩ := areDigits_of_digits hdigits hempty
    exact ⟨ds, rfl, hds, rfl⟩

theorem exists_spellsExponent {exponent : Option Int}
    (h : readExponent? cs = some (exponent, rest)) :
    ∃ power, cs = power ++ rest ∧ SpellsExponent power exponent := by
  rw [readExponent?.eq_def] at h
  split at h
  · rename_i c tail
    split at h
    · rename_i he
      -- The digits of a power may come after a plus, after a minus, or at once.
      split at h
      · obtain ⟨ds, rfl, hds, rfl⟩ := exists_areDigits_of_readPower? h
        rw [one_mul]
        exact ⟨c :: '+' :: ds, rfl, .power he (.plus hds)⟩
      · obtain ⟨ds, rfl, hds, rfl⟩ := exists_areDigits_of_readPower? h
        rw [neg_one_mul]
        exact ⟨c :: '-' :: ds, rfl, .power he (.minus hds)⟩
      · obtain ⟨ds, rfl, hds, rfl⟩ := exists_areDigits_of_readPower? h
        rw [one_mul]
        exact ⟨c :: ds, rfl, .power he (.plain hds)⟩
    · cases h
      exact ⟨[], rfl, .none⟩
  · cases h
    exact ⟨[], rfl, .none⟩

/-- What is read is a numeral of the grammar. -/
theorem exists_spells_of_read? {x : Numeral} (h : read? cs = some (x, rest)) :
    ∃ ds, cs = ds ++ rest ∧ Spells ds x := by
  rcases hsign : readSign cs with ⟨negative, unsigned⟩
  simp only [read?, hsign, Option.bind_eq_bind, Option.bind_eq_some_iff, Option.pure_def,
    Option.some_inj, Prod.exists, Prod.mk.injEq] at h
  obtain ⟨whole, cs₁, hwhole, fraction, cs₂, hfraction, exponent, cs₃, hexponent, rfl, rfl⟩ := h
  obtain ⟨sign, rfl, hspellsSign⟩ := exists_spellsSign hsign
  obtain ⟨rfl, hspellsWhole⟩ := spellsWhole_of_readWhole? hwhole
  obtain ⟨point, rfl, hspellsFraction⟩ := exists_spellsFraction hfraction
  obtain ⟨power, rfl, hspellsExponent⟩ := exists_spellsExponent hexponent
  refine ⟨_, ?_, .mk hspellsSign hspellsWhole hspellsFraction hspellsExponent⟩
  simp only [List.append_assoc]

end Taken

section Integer

variable {cs ds : List Char} {n m left : Nat}

theorem spellsWhole_digits (n : Nat) : SpellsWhole (Decimal.digits n) := by
  refine ⟨⟨Decimal.digits_ne_nil n, Decimal.all_isDigit_digits n⟩, fun hzero => ?_⟩
  by_cases hn : n = 0
  · subst hn
    rfl
  · exact absurd hzero (Decimal.head?_digits_ne_zero hn)

theorem SpellsWhole.spells (h : SpellsWhole ds) : Spells ds ⟨false, ds, [], none⟩ := by
  have hspells : Spells ([] ++ (ds ++ ([] ++ []))) ⟨false, ds, [], none⟩ :=
    .mk .none h .none .none
  simpa using hspells

theorem spells_digits (n : Nat) :
    Spells (Decimal.digits n) ⟨false, Decimal.digits n, [], none⟩ :=
  (spellsWhole_digits n).spells

theorem accumulate_cons (d : Char) (ds : List Char) :
    accumulate n (d :: ds) =
      if n * 10 + (d.toNat - 48) < 0x10000000000000000 then
        accumulate (n * 10 + (d.toNat - 48)) ds
      else (n, ds.length + 1) :=
  rfl

/-- Every digit is used exactly if the value fits 64 bits. -/
theorem accumulate_eq_iff (hn : n < 0x10000000000000000) :
    accumulate n ds = (m, 0) ↔
      m = Nat.ofDigitChars 10 ds n ∧ Nat.ofDigitChars 10 ds n < 0x10000000000000000 := by
  induction ds generalizing n with
  | nil =>
      simp only [accumulate, Nat.ofDigitChars_nil, Prod.mk.injEq, and_true, hn]
      exact eq_comm
  | cons d ds ih =>
      have hnext : Nat.ofDigitChars 10 (d :: ds) n =
          Nat.ofDigitChars 10 ds (n * 10 + (d.toNat - 48)) := by
        rw [Nat.ofDigitChars_cons, Nat.mul_comm]
        rfl
      rw [accumulate_cons, hnext]
      split
      · rename_i hlt
        exact ih hlt
      · rename_i hlt
        have hle := Decimal.le_ofDigitChars ds (n * 10 + (d.toNat - 48))
        simp only [Prod.mk.injEq, Nat.add_eq_zero_iff, one_ne_zero, and_false, false_iff, not_and]
        omega

theorem float?_ne_integer {negative : Bool} {significand : Nat} {shift exponent n : Int} :
    float? negative significand shift exponent ≠ some (.integer n) := by
  simp [float?]

/-- An integer from zero on has neither a sign nor a fraction nor an exponent, and fits 64 bits. -/
theorem value?_eq_natural_iff {x : Numeral} :
    x.value? = some (.integer n) ↔ x.negative = false ∧ x.fraction = [] ∧ x.exponent = none ∧
      Nat.ofDigitChars 10 x.whole 0 = n ∧ n < 0x10000000000000000 := by
  obtain ⟨negative, whole, fraction, exponent⟩ := x
  rcases haccumulate : accumulate 0 whole with ⟨m, left⟩
  have hused (k : Nat) : m = k ∧ left = 0 ↔
      k = Nat.ofDigitChars 10 whole 0 ∧ Nat.ofDigitChars 10 whole 0 < 0x10000000000000000 := by
    rw [← accumulate_eq_iff (by decide), haccumulate, Prod.mk.injEq]
  simp only [value?, haccumulate]
  constructor
  · intro h
    split at h
    · rename_i hplain
      obtain ⟨rfl, rfl, hleft⟩ := hplain
      obtain ⟨rfl, hlt⟩ := (hused m).mp ⟨rfl, hleft⟩
      split at h
      · rename_i hnegative
        obtain rfl : Nat.ofDigitChars 10 whole 0 = n := by simpa using h
        exact ⟨hnegative, rfl, rfl, rfl, hlt⟩
      · split at h
        · exact absurd h float?_ne_integer
        · rename_i hnonzero
          simp only [Option.some.injEq, Number.integer.injEq] at h
          omega
    · exact absurd h float?_ne_integer
  · rintro ⟨rfl, rfl, rfl, rfl, hlt⟩
    obtain ⟨rfl, rfl⟩ := (hused _).mpr ⟨rfl, hlt⟩
    rfl

theorem value?_digits (h : n < 0x10000000000000000) :
    value? ⟨false, Decimal.digits n, [], none⟩ = some (.integer n) :=
  value?_eq_natural_iff.mpr ⟨rfl, rfl, rfl, Decimal.ofDigitChars_digits n, h⟩

/-- A numeral without a sign, a fraction and an exponent is its whole part. -/
theorem Spells.eq_whole {x : Numeral} (h : Spells cs x) (hsign : x.negative = false)
    (hfraction : x.fraction = []) (hexponent : x.exponent = none) :
    cs = x.whole ∧ SpellsWhole x.whole := by
  cases h with
  | mk hspellsSign hwhole hspellsFraction hspellsExponent =>
      cases hsign
      cases hfraction
      cases hexponent
      cases hspellsSign
      cases hspellsExponent
      cases hspellsFraction with
      | none => exact ⟨by simp, hwhole⟩
      | point hds => exact absurd rfl hds.1

/-- No numeral but the plain digits is an integer from zero on. -/
theorem Spells.eq_digits {x : Numeral} (h : Spells cs x) (hx : x.value? = some (.integer n)) :
    cs = Decimal.digits n ∧ n < 0x10000000000000000 := by
  obtain ⟨hsign, hfraction, hexponent, rfl, hlt⟩ := value?_eq_natural_iff.mp hx
  obtain ⟨rfl, hwhole⟩ := h.eq_whole hsign hfraction hexponent
  exact ⟨(Decimal.digits_ofDigitChars hwhole.digits.1 hwhole.digits.2 hwhole.zero).symm, hlt⟩

end Integer

end Snowflake.Json.Numeral
