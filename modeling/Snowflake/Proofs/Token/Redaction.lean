import Snowflake.Proofs.Token.Secret

/-!
What is said about secrets. No diagnostic text tells one secret from another, and of a text that is
rejected it tells no more than whether it is thirty bytes long.
-/

namespace Snowflake

open Json

/-- The fault of a rejected text that is this many bytes long. -/
def InvalidSecret.ofLength (length : Nat) : InvalidSecret :=
  if length = 30 then .notAlphanumeric else .wrongLength

theorem InvalidSecret.ofLength_congr {m n : Nat} (h : m = 30 ↔ n = 30) :
    ofLength m = ofLength n := by
  simp only [ofLength, h]

namespace Secret

variable {s doc : String}

theorem fault?_eq_some_iff {e : InvalidSecret} :
    fault? s = some e ↔ ¬ WellFormed s ∧ e = .ofLength s.utf8ByteSize := by
  rw [← fault?_eq_none_iff, fault?_eq_of_bytes, InvalidSecret.ofLength]
  by_cases hlength : s.utf8ByteSize = 30
  · rw [if_neg (not_not_intro hlength), if_pos hlength]
    split <;> simp [eq_comm]
  · simp [hlength, eq_comm]

theorem read_eq_error_iff {e : InvalidSecret} :
    read s = .error e ↔ ¬ WellFormed s ∧ e = .ofLength s.utf8ByteSize := by
  rw [← fault?_eq_some_iff, read]
  split
  · rename_i hnone
    simp [hnone]
  · rename_i fault hfault
    simp [hfault]

theorem ofJson_eq_error_iff {e : Fault} (hdoc : IsText doc s) :
    ofJson doc = .error e ↔
      ¬ WellFormed s ∧
        e = .mismatch (.rejected (InvalidSecret.ofLength s.utf8ByteSize).message) := by
  rw [ofJson, document_text hdoc, ofHead, Scalar.text]
  rcases hread : read s with fault | t
  · obtain ⟨hformed, rfl⟩ := read_eq_error_iff.mp hread
    simp [hformed, Except.mapError, agreeing, eq_comm]
  · have hformed : WellFormed s := exists_text_eq_iff.mp ⟨t, read_eq_ok_iff.mp hread⟩
    simp [hformed, Except.mapError, agreeing]

end Secret

/-- The diagnostic text of a token is that of every token with the same public fields. -/
theorem AuthToken.describe_congr {t t' : AuthToken} (huser : t.user = t'.user)
    (hcreatedAt : t.createdAt = t'.createdAt) (httl : t.ttl = t'.ttl) :
    t.describe = t'.describe := by
  rw [describe, describe, huser, hcreatedAt, httl]
  rfl

/-- Secrets stay out of diagnostics: texts about tokens that differ in their secrets alone are the
same, and so is everything said about two rejected texts, unless one of them is thirty bytes long
and the other is not. -/
theorem Secret.never_disclosed :
    (∀ t t' : AuthToken, t.user = t'.user → t.createdAt = t'.createdAt → t.ttl = t'.ttl →
      t.describe = t'.describe) ∧
    (∀ secret secret' : Secret, secret.describe = secret'.describe) ∧
    (∀ s e, read s = .error e ↔ ¬ WellFormed s ∧ e = .ofLength s.utf8ByteSize) ∧
    (∀ s s' e e', read s = .error e → read s' = .error e' →
      (s.utf8ByteSize = 30 ↔ s'.utf8ByteSize = 30) →
      e = e' ∧ e.message = e'.message ∧ e.describe = e'.describe) ∧
    (∀ doc s e, IsText doc s →
      (ofJson doc = .error e ↔ ¬ WellFormed s ∧
        e = .mismatch (.rejected (InvalidSecret.ofLength s.utf8ByteSize).message))) ∧
    ∀ doc doc' s s' e e', IsText doc s → IsText doc' s' → ofJson doc = .error e →
      ofJson doc' = .error e' → (s.utf8ByteSize = 30 ↔ s'.utf8ByteSize = 30) → e = e' := by
  refine ⟨fun t t' => AuthToken.describe_congr, fun _ _ => rfl, fun s e => read_eq_error_iff, ?_,
    fun doc s e => ofJson_eq_error_iff, ?_⟩
  · intro s s' e e' h h' hlength
    obtain ⟨-, rfl⟩ := read_eq_error_iff.mp h
    obtain ⟨-, rfl⟩ := read_eq_error_iff.mp h'
    rw [InvalidSecret.ofLength_congr hlength]
    exact ⟨rfl, rfl, rfl⟩
  · intro doc doc' s s' e e' hdoc hdoc' h h' hlength
    obtain ⟨-, rfl⟩ := (ofJson_eq_error_iff hdoc).mp h
    obtain ⟨-, rfl⟩ := (ofJson_eq_error_iff hdoc').mp h'
    rw [InvalidSecret.ofLength_congr hlength]

/-- Two tokens with different secrets, and two texts that are none, also as documents. -/
theorem Secret.never_disclosed_two_runs :
    let createdAt : Instant := ⟨0, 0, by decide, by decide, by decide⟩
    let token (secret : Secret) : AuthToken := ⟨secret, ⟨⟨7⟩⟩, createdAt, some 60⟩
    let doc (s : String) := String.ofList (Literal.write s)
    token (generate fun _ => 0) ≠ token (generate fun _ => 1) ∧
      (token (generate fun _ => 0)).describe = (token (generate fun _ => 1)).describe ∧
      (∃ e, read "hunter2" = .error e ∧ read "open sesame" = .error e) ∧
      ∃ e, ofJson (doc "hunter2") = .error e ∧ ofJson (doc "open sesame") = .error e := by
  intro createdAt token doc
  obtain ⟨htokens, -, hread, hreads, hjson, hjsons⟩ := never_disclosed
  have hformed : ¬ WellFormed "hunter2" ∧ ¬ WellFormed "open sesame" :=
    ⟨fun h => absurd h.1 (by decide), fun h => absurd h.1 (by decide)⟩
  have h := (hread "hunter2" _).mpr ⟨hformed.1, rfl⟩
  have h' := (hread "open sesame" _).mpr ⟨hformed.2, rfl⟩
  have hdoc := (hjson (doc "hunter2") _ _ (isText_write _)).mpr ⟨hformed.1, rfl⟩
  have hdoc' := (hjson (doc "open sesame") _ _ (isText_write _)).mpr ⟨hformed.2, rfl⟩
  have hlength : "hunter2".utf8ByteSize = 30 ↔ "open sesame".utf8ByteSize = 30 := by decide
  rw [← (hreads _ _ _ _ h h' hlength).1] at h'
  rw [← hjsons _ _ _ _ _ _ (isText_write _) (isText_write _) hdoc hdoc' hlength] at hdoc'
  exact ⟨by decide, htokens _ _ rfl rfl rfl, ⟨_, h, h'⟩, _, hdoc, hdoc'⟩

end Snowflake
