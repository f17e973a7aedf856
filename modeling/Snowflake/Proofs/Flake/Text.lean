import Snowflake.Flake
import Snowflake.Proofs.Text.Decimal

/-!
Identifiers as decimal texts: a text is read as an identifier exactly when it is a numeral that
fits 64 bits, and the identifier is its value.
-/

namespace Snowflake.Flake

theorem read_eq_ok_iff {s : String} {f : Flake} :
    read s = .ok f ↔ Decimal.IsNumeral s.toList f.toNat := by
  rw [toNat, ← Decimal.word?_eq_some_iff, read, ofDigits?]
  rcases Decimal.word? s.toList with _ | w
  · simp
  · constructor
    · intro h
      obtain rfl := Except.ok.inj h
      rfl
    · intro h
      obtain rfl := Option.some_inj.mp h
      rfl

/-- Whatever else is read comes back in the error as it was. -/
theorem read_eq_error_iff {s : String} {e : InvalidFlake} :
    read s = .error e ↔
      e = ⟨s⟩ ∧ ∀ f : Flake, ¬ Decimal.IsNumeral s.toList f.toNat := by
  simp only [← read_eq_ok_iff]
  rw [read]
  rcases ofDigits? s.toList with _ | f
  · simp [eq_comm]
  · simp

theorem read_text (f : Flake) : read f.text = .ok f := by
  rw [read, ofDigits?, text, Decimal.text, String.toList_ofList, toNat, Decimal.word?_digits]
  rfl

end Snowflake.Flake
