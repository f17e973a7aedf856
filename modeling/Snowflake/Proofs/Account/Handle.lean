import Snowflake.Proofs.Json.Account

/-!
The rules for handles. A text is a handle exactly if it breaks no rule; otherwise the first rule
that it breaks is reported, with the text. Characters are counted, not bytes.
-/

namespace Snowflake

open Json

/-- The code points with the Unicode property `White_Space`. -/
def Blank.codePoints : List Nat :=
  [0x9, 0xA, 0xB, 0xC, 0xD, 0x20, 0x85, 0xA0, 0x1680, 0x2000, 0x2001, 0x2002, 0x2003, 0x2004,
    0x2005, 0x2006, 0x2007, 0x2008, 0x2009, 0x200A, 0x2028, 0x2029, 0x202F, 0x205F, 0x3000]

theorem Blank.isBlank_iff {c : Char} : isBlank c = true ↔ c.toNat ∈ codePoints := by
  simp only [isBlank, ranges, codePoints, List.any_cons, List.any_nil, Bool.or_false,
    Bool.or_eq_true, Bool.and_eq_true, decide_eq_true_eq, List.mem_cons, List.not_mem_nil, or_false]
  omega

namespace Handle

/-- The text `s` breaks this rule, be it the first of them or not. -/
def Breaks (s : String) : HandleFault → Prop
  | .empty => s.length = 0
  | .tooLong => 50 < s.length
  | .blank => ∃ c ∈ s.toList, c.toNat ∈ Blank.codePoints

/-- The place of a rule in the order in which they are looked at. -/
def rank : HandleFault → Nat
  | .empty => 0
  | .tooLong => 1
  | .blank => 2

/-- Texts that are handles. -/
def Valid (s : String) : Prop :=
  1 ≤ s.length ∧ s.length ≤ 50 ∧ ∀ c ∈ s.toList, c.toNat ∉ Blank.codePoints

instance (s : String) : (fault : HandleFault) → Decidable (Breaks s fault)
  | .empty => inferInstanceAs (Decidable (s.length = 0))
  | .tooLong => inferInstanceAs (Decidable (50 < s.length))
  | .blank => inferInstanceAs (Decidable (∃ c ∈ s.toList, c.toNat ∈ Blank.codePoints))

section Rules

variable {s : String}

theorem fault?_eq_ite (s : String) :
    fault? s =
      if Breaks s .empty then some .empty
      else if Breaks s .tooLong then some .tooLong
      else if Breaks s .blank then some .blank
      else none := by
  have hempty : s.toList = [] ↔ Breaks s .empty := by
    rw [← List.length_eq_zero_iff, String.length_toList]
    rfl
  have htooLong : maxLength < s.toList.length ↔ Breaks s .tooLong := by
    rw [String.length_toList]
    rfl
  have hblank : s.toList.any Blank.isBlank = true ↔ Breaks s .blank := by
    simp only [List.any_eq_true, Blank.isBlank_iff]
    rfl
  simp only [fault?, hempty, htooLong, hblank]

theorem fault?_eq_some_iff {fault : HandleFault} :
    fault? s = some fault ↔
      Breaks s fault ∧ ∀ other, rank other < rank fault → ¬ Breaks s other := by
  rw [fault?_eq_ite]
  constructor
  · intro h
    by_cases hempty : Breaks s .empty
    · rw [if_pos hempty] at h
      cases h
      exact ⟨hempty, fun other hother => absurd hother (Nat.not_lt_zero _)⟩
    rw [if_neg hempty] at h
    by_cases htooLong : Breaks s .tooLong
    · rw [if_pos htooLong] at h
      cases h
      refine ⟨htooLong, fun other hother => ?_⟩
      cases other with
      | empty => exact hempty
      | tooLong | blank => exact absurd hother (by decide)
    rw [if_neg htooLong] at h
    by_cases hblank : Breaks s .blank
    · rw [if_pos hblank] at h
      cases h
      refine ⟨hblank, fun other hother => ?_⟩
      cases other with
      | empty => exact hempty
      | tooLong => exact htooLong
      | blank => exact absurd hother (by decide)
    rw [if_neg hblank] at h
    cases h
  · rintro ⟨hbreaks, hfirst⟩
    cases fault with
    | empty => exact if_pos hbreaks
    | tooLong => rw [if_neg (hfirst .empty (by decide)), if_pos hbreaks]
    | blank =>
        rw [if_neg (hfirst .empty (by decide)), if_neg (hfirst .tooLong (by decide)),
          if_pos hbreaks]

theorem valid_iff : Valid s ↔ ∀ fault, ¬ Breaks s fault := by
  constructor
  · rintro ⟨hpos, hle, hblank⟩ (_ | _ | _) hbreaks
    · exact absurd hbreaks (Nat.ne_of_gt hpos)
    · exact absurd hbreaks (Nat.not_lt.mpr hle)
    · obtain ⟨c, hc, hmem⟩ := hbreaks
      exact hblank c hc hmem
  · intro h
    refine ⟨Nat.pos_of_ne_zero (h .empty), Nat.not_lt.mp (h .tooLong), ?_⟩
    exact fun c hc hmem => h .blank ⟨c, hc, hmem⟩

theorem fault?_eq_none_iff : fault? s = none ↔ Valid s := by
  rw [valid_iff, fault?_eq_ite]
  constructor
  · intro h fault hbreaks
    split at h
    · cases h
    split at h
    · cases h
    split at h
    · cases h
    cases fault <;> contradiction
  · intro h
    rw [if_neg (h .empty), if_neg (h .tooLong), if_neg (h .blank)]

end Rules

section Routes

variable {s doc : String} {h : Handle} {e : InvalidHandle}

theorem read_eq_ok_iff : read s = .ok h ↔ h.text = s := by
  constructor
  · intro hread
    rw [read] at hread
    split at hread
    · cases hread
      rfl
    · cases hread
  · rintro rfl
    exact read_text h

theorem exists_text_eq_iff : (∃ h : Handle, h.text = s) ↔ Valid s := by
  rw [← fault?_eq_none_iff]
  constructor
  · rintro ⟨h, rfl⟩
    exact h.fault?_eq
  · intro h
    exact ⟨⟨s, h⟩, rfl⟩

theorem read_eq_error_iff :
    read s = .error e ↔
      e.input = s ∧ Breaks s e.fault ∧ ∀ fault, rank fault < rank e.fault → ¬ Breaks s fault := by
  rw [← fault?_eq_some_iff, read]
  obtain ⟨input, fault⟩ := e
  split
  · rename_i hnone
    simp [hnone]
  · rename_i found hfound
    simp [hfound, eq_comm]

/-- A document is read as the text that it holds is. -/
theorem ofJson_of_isText (hdoc : IsText doc s) :
    ofJson doc = agreeing ((read s).mapError fun e => .rejected e.message) := by
  rw [ofJson, document_text hdoc, ofHead, Scalar.text]
  cases read s <;> rfl

end Routes

end Handle

end Snowflake
