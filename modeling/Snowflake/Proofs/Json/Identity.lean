import Snowflake.Json.Identity
import Snowflake.Proofs.Flake.Text
import Snowflake.Proofs.Json.Value

/-!
Identifiers as JSON values: they are taken from decimal texts and from integers, and written as
texts.
-/

namespace Snowflake

open Json Reader

namespace Flake

theorem ofHead_text_eq_ok_iff {s : String} {f : Flake} :
    ofHead (.text s) = .ok f ↔ Decimal.IsNumeral s.toList f.toNat := by
  rw [← read_eq_ok_iff, ofHead]
  cases read s <;> simp [Except.mapError]

theorem ofHead_text (f : Flake) : ofHead (.text f.text) = .ok f :=
  ofHead_text_eq_ok_iff.mpr (read_eq_ok_iff.mp (read_text f))

theorem ofHead_text_of_not {s : String} (h : ∀ f : Flake, ¬ Decimal.IsNumeral s.toList f.toNat) :
    ofHead (.text s) = .error (.rejected (InvalidFlake.message ⟨s⟩)) := by
  rw [ofHead, read_eq_error_iff.mpr ⟨rfl, h⟩]
  rfl

theorem ofHead_number_eq_ok_iff {n : Number} {f : Flake} :
    ofHead (.number n) = .ok f ↔ n = .integer f.toNat := by
  show (Scalar.bounded _ _ (.number n)).map _ = .ok f ↔ _
  simp only [map_eq_ok_iff, Scalar.bounded_eq_ok_iff, Head.number.injEq]
  constructor
  · rintro ⟨m, ⟨hm, rfl⟩, rfl⟩
    rw [toNat, UInt64.toNat_ofNat_of_lt' (Nat.lt_succ_of_le hm)]
  · rintro rfl
    exact ⟨f.toNat, ⟨Nat.le_of_lt_succ f.word.toNat_lt, rfl⟩, congrArg mk UInt64.ofNat_toNat⟩

/-- The values that are neither texts nor numbers. -/
theorem ofHead_of_ne {head : Head} (htext : ∀ s, head ≠ .text s) (hnumber : ∀ n, head ≠ .number n) :
    ofHead head = .error (.wrongType head expectedHead) := by
  cases head with
  | text s => exact absurd rfl (htext s)
  | number n => exact absurd rfl (hnumber n)
  | _ => rfl

end Flake

theorem Id.ofHead_text {k : Kind} (id : Id k) : Id.ofHead (.text id.text) = .ok id := by
  rw [Id.ofHead, Id.text, Flake.ofHead_text]
  rfl

namespace Flake

/-- The document `doc` spells `n` in one of two forms: as an integer without a sign, a fraction and
an exponent, or as a text of digits, which may be escaped and have zeros in front. -/
inductive IsJson (doc : String) (n : Nat) : Prop where
  | integer {ds : List Char} (hdoc : Holds doc ds) (hds : Numeral.SpellsWhole ds)
      (hvalue : Nat.ofDigitChars 10 ds 0 = n) : IsJson doc n
  | text {s : String} (hdoc : IsText doc s) (hs : Decimal.IsNumeral s.toList n) : IsJson doc n

section Read

variable {doc : String} {f : Flake}

theorem ofJson_eq_ok_iff_of_spells {ds : List Char} {x : Numeral} (hdoc : Holds doc ds)
    (hx : Numeral.Spells ds x) :
    ofJson doc = .ok f ↔ x.negative = false ∧ x.fraction = [] ∧ x.exponent = none ∧
      Nat.ofDigitChars 10 x.whole 0 = f.toNat := by
  rw [ofJson, document_eq_ok_iff_of_spells hdoc hx]
  simp only [ofHead_number_eq_ok_iff, exists_eq_right, Numeral.value?_eq_natural_iff]
  have hlt : f.toNat < 0x10000000000000000 := f.word.toNat_lt
  simp only [hlt, and_true]

theorem ofJson_eq_ok_iff_of_isText {s : String} (hdoc : IsText doc s) :
    ofJson doc = .ok f ↔ Decimal.IsNumeral s.toList f.toNat := by
  rw [ofJson, document_text hdoc, agreeing_eq_ok_iff, ofHead_text_eq_ok_iff]

theorem ofJson_eq_ok_iff : ofJson doc = .ok f ↔ IsJson doc f.toNat := by
  constructor
  · intro h
    obtain ⟨head, rest, hread, hhead, hrest⟩ := document_scalar_eq_ok_iff.mp h
    rcases Head.read?_cases hread with ⟨s, before, body, rfl, hdoc, hbefore, hspells⟩ |
      ⟨n, before, ds, x, rfl, hdoc, hbefore, hspells, hvalue⟩ | ⟨htext, hnumber⟩
    · exact .text ⟨before, body, rest, hdoc, hbefore, hrest, hspells⟩
        (ofHead_text_eq_ok_iff.mp hhead)
    · rw [ofHead_number_eq_ok_iff.mp hhead, Numeral.value?_eq_natural_iff] at hvalue
      obtain ⟨hsign, hfraction, hexponent, hwhole, -⟩ := hvalue
      obtain ⟨rfl, hds⟩ := hspells.eq_whole hsign hfraction hexponent
      exact .integer ⟨before, rest, hdoc, hbefore, hrest⟩ hds hwhole
    · rw [ofHead_of_ne htext hnumber] at hhead
      cases hhead
  · rintro (⟨hdoc, hds, hvalue⟩ | ⟨hdoc, hs⟩)
    · exact (ofJson_eq_ok_iff_of_spells hdoc hds.spells).mpr ⟨rfl, rfl, rfl, hvalue⟩
    · exact (ofJson_eq_ok_iff_of_isText hdoc).mpr hs

theorem exists_ofJson_eq_error_iff :
    (∃ fault, ofJson doc = .error fault) ↔ ∀ n < 2 ^ 64, ¬ IsJson doc n := by
  constructor
  · rintro ⟨fault, hfault⟩ n hn hjson
    obtain ⟨f, rfl⟩ : ∃ f : Flake, f.toNat = n := ⟨⟨.ofNat n⟩, UInt64.toNat_ofNat_of_lt' hn⟩
    rw [ofJson_eq_ok_iff.mpr hjson] at hfault
    cases hfault
  · intro h
    rcases hdoc : ofJson doc with fault | f
    · exact ⟨fault, rfl⟩
    · exact absurd (ofJson_eq_ok_iff.mp hdoc) (h f.toNat f.word.toNat_lt)

theorem ofJson_of_isValue {value : List Char} (hdoc : Holds doc value) (hvalue : IsValue value)
    (hnumber : ∀ x, ¬ Numeral.Spells value x) (htext : value.head? ≠ some '"') :
    ∃ head, ofJson doc = .error (.mismatch (.wrongType head expectedHead)) := by
  obtain ⟨before, after, hdoc, hbefore, -⟩ := hdoc
  obtain ⟨head, hne, hne', hread⟩ := hvalue.exists_read?_of_ne hnumber htext
  obtain ⟨rest, hrest⟩ := hread after
  have hread : Head.read? doc.toList = some (head, rest) := by
    rw [hdoc, Head.read?_append hbefore, hrest]
  exact ⟨head, document_of_error hread (ofHead_of_ne hne hne')⟩

end Read

section Written

variable (f : Flake)

theorem ofJson_digits : ofJson (String.ofList (Decimal.digits f.toNat)) = .ok f :=
  (ofJson_eq_ok_iff_of_spells (holds_ofList _) (Numeral.spells_digits f.toNat)).mpr
    ⟨rfl, rfl, rfl, Decimal.ofDigitChars_digits f.toNat⟩

theorem ofJson_of_isText_text {doc : String} (h : IsText doc f.text) : ofJson doc = .ok f :=
  (ofJson_eq_ok_iff_of_isText h).mpr (read_eq_ok_iff.mp (read_text f))

theorem ofJson_quoted :
    ofJson (String.ofList ('"' :: (Decimal.digits f.toNat ++ ['"']))) = .ok f := by
  apply ofJson_of_isText_text
  refine isText_iff.mpr ⟨_, holds_ofList _, ?_⟩
  rw [text, Decimal.text, String.toList_ofList]
  exact Literal.spells_of_isDigit (Decimal.all_isDigit_digits f.toNat)

theorem ofJson_toJson : ofJson (String.ofList f.toJson) = .ok f :=
  ofJson_of_isText_text f (isText_write f.text)

end Written

end Flake

namespace Id

variable {k : Kind}

theorem ofJson_eq_map (doc : String) :
    (ofJson doc : Except Fault (Id k)) = (Flake.ofJson doc).map mk :=
  document_map mk

theorem ofJson_eq_ok_iff {doc : String} {id : Id k} :
    ofJson doc = .ok id ↔ Flake.IsJson doc id.flake.toNat := by
  rw [ofJson_eq_map, map_eq_ok_iff, ← Flake.ofJson_eq_ok_iff]
  constructor
  · rintro ⟨f, hf, rfl⟩
    exact hf
  · intro h
    exact ⟨id.flake, h, rfl⟩

theorem ofJson_toJson (id : Id k) : ofJson (String.ofList id.toJson) = .ok id := by
  rw [ofJson_eq_map, toJson, Flake.ofJson_toJson]
  rfl

end Id

/-- Identifiers are taken from JSON in two forms and in no other: as an integer of 64 bits without a
sign, a fraction and an exponent, and as a text whose content is digits with such a value. All other
documents are refused. A numeral and a text are taken exactly by what they spell, and any other value
is of the wrong type. Both forms of a number are the same identifier, what is written is read back,
and identifiers of every kind are read from the same documents. -/
theorem Flake.ofJson_exactly_two_forms :
    (∀ doc f, ofJson doc = .ok f ↔ IsJson doc f.toNat) ∧
    (∀ doc, (∃ fault, ofJson doc = .error fault) ↔ ∀ n < 2 ^ 64, ¬ IsJson doc n) ∧
    (∀ doc ds x f, Holds doc ds → Numeral.Spells ds x →
      (ofJson doc = .ok f ↔ x.negative = false ∧ x.fraction = [] ∧ x.exponent = none ∧
        Nat.ofDigitChars 10 x.whole 0 = f.toNat)) ∧
    (∀ doc s, IsText doc s →
      (∀ f, ofJson doc = .ok f ↔ Decimal.IsNumeral s.toList f.toNat) ∧
      ((∀ f : Flake, ¬ Decimal.IsNumeral s.toList f.toNat) →
        ofJson doc = .error (.mismatch (.rejected (InvalidFlake.message ⟨s⟩))))) ∧
    (∀ doc value, Holds doc value → IsValue value → (∀ x, ¬ Numeral.Spells value x) →
      value.head? ≠ some '"' →
        ∃ head, ofJson doc = .error (.mismatch (.wrongType head expectedHead))) ∧
    (∀ f : Flake, ofJson (String.ofList (Decimal.digits f.toNat)) = .ok f ∧
      ofJson (String.ofList ('"' :: (Decimal.digits f.toNat ++ ['"']))) = .ok f ∧
      ofJson (String.ofList f.toJson) = .ok f) ∧
    ∀ k : Kind,
      (∀ doc, (Id.ofJson doc : Except Fault (Id k)) = (ofJson doc).map Id.mk) ∧
      (∀ doc (id : Id k), Id.ofJson doc = .ok id ↔ IsJson doc id.flake.toNat) ∧
      ∀ id : Id k, Id.ofJson (String.ofList id.toJson) = .ok id := by
  refine ⟨fun doc f => ofJson_eq_ok_iff, fun doc => exists_ofJson_eq_error_iff,
    fun doc ds x f => ofJson_eq_ok_iff_of_spells, fun doc s hdoc => ⟨fun f => ?_, fun h => ?_⟩,
    fun doc value => ofJson_of_isValue, fun f => ?_, fun k => ?_⟩
  · exact ofJson_eq_ok_iff_of_isText hdoc
  · rw [ofJson, document_text hdoc, ofHead_text_of_not h]
    rfl
  · exact ⟨f.ofJson_digits, f.ofJson_quoted, f.ofJson_toJson⟩
  · exact ⟨Id.ofJson_eq_map, fun doc id => Id.ofJson_eq_ok_iff, Id.ofJson_toJson⟩

/-- The greatest identifier and the number after it; zero with a sign and a thousand as a power; an
escaped digit, a text with a blank, and an empty sequence. -/
theorem Flake.ofJson_exactly_two_forms_next_to_the_greatest :
    let greatest : Flake := ⟨0xFFFFFFFFFFFFFFFF⟩
    (Holds "\t18446744073709551615" (Decimal.digits 18446744073709551615) ∧
      ofJson "\t18446744073709551615" = .ok greatest) ∧
    (∀ f, ofJson "18446744073709551616" ≠ .ok f) ∧
    (Numeral.Spells ['-', '0'] ⟨true, ['0'], [], none⟩ ∧ ∀ f, ofJson "-0" ≠ .ok f) ∧
    (Numeral.Spells ['1', 'e', '3'] ⟨false, ['1'], [], some 3⟩ ∧ ∀ f, ofJson "1e3" ≠ .ok f) ∧
    (IsText "\"\\u00342\"" "42" ∧ ofJson "\"\\u00342\"" = .ok ⟨42⟩) ∧
    (IsText "\" 5\"" " 5" ∧
      ofJson "\" 5\"" = .error (.mismatch (.rejected (InvalidFlake.message ⟨" 5"⟩)))) ∧
    IsValue ['[', ']'] ∧
      ∃ head, ofJson "[]" = .error (.mismatch (.wrongType head expectedHead)) := by
  intro greatest
  obtain ⟨-, -, hnumeral, htext, hother, -⟩ := ofJson_exactly_two_forms
  have hgreatest : Holds "\t18446744073709551615" (Decimal.digits 18446744073709551615) :=
    ⟨['\t'], [], by decide, rfl, rfl⟩
  have hzero : Numeral.Spells ['-', '0'] ⟨true, ['0'], [], none⟩ :=
    @Numeral.Spells.mk ['-'] ['0'] [] [] _ _ _ .minus ⟨⟨by decide, by decide⟩, by decide⟩ .none
      .none
  have hthousand : Numeral.Spells ['1', 'e', '3'] ⟨false, ['1'], [], some 3⟩ :=
    @Numeral.Spells.mk [] ['1'] [] ['e', '3'] _ _ _ .none ⟨⟨by decide, by decide⟩, by decide⟩ .none
      (.power (.inl rfl) (.plain ⟨by decide, by decide⟩))
  have hescaped : IsText "\"\\u00342\"" "42" :=
    ⟨[], ['\\', 'u', '0', '0', '3', '4', '2'], [], by decide, rfl, rfl,
      .unit (by decide) (.plain (by decide) (by decide) (by decide) .nil)⟩
  have hspaced : IsText "\" 5\"" " 5" := isText_write " 5"
  have hempty : IsValue ['[', ']'] := .sequence (@IsSequence.empty IsValue [] rfl)
  refine ⟨⟨hgreatest, ?_⟩, fun f hf => ?_, ⟨hzero, fun f hf => ?_⟩, ⟨hthousand, fun f hf => ?_⟩,
    ⟨hescaped, ?_⟩, ⟨hspaced, ?_⟩, hempty, ?_⟩
  · exact (hnumeral _ _ _ greatest hgreatest (Numeral.spells_digits _)).mpr
      ⟨rfl, rfl, rfl, by decide⟩
  · have hdoc := holds_ofList (Decimal.digits 18446744073709551616)
    obtain ⟨-, -, -, hvalue⟩ := (hnumeral _ _ _ f hdoc (Numeral.spells_digits _)).mp hf
    have hlt : f.toNat < 18446744073709551616 := f.word.toNat_lt
    rw [Decimal.ofDigitChars_digits] at hvalue
    omega
  · cases ((hnumeral _ _ _ f (holds_ofList _) hzero).mp hf).1
  · cases ((hnumeral _ _ _ f (holds_ofList _) hthousand).mp hf).2.2.1
  · exact ((htext _ _ hescaped).1 _).mpr ⟨by decide, by decide, by decide⟩
  · refine (htext _ _ hspaced).2 fun f hf => ?_
    exact absurd hf.all_isDigit (by decide)
  · refine hother _ _ (holds_ofList _) hempty (fun x hx => ?_) (by decide)
    obtain ⟨c, tail, hcons, hc⟩ := hx.exists_eq_cons
    cases hcons
    exact absurd hc (by decide)

end Snowflake
