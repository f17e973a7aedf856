import Snowflake.Proofs.Json.Token
import Snowflake.Proofs.Text.Utf8
import Snowflake.Proofs.Token.Store

/-!
The form of secrets. The length and the alphabet are checked on bytes, and together they leave
exactly the texts of thirty ASCII letters and digits. Every way to come by a secret keeps to that.
-/

namespace Snowflake

open Json

namespace Secret

/-- The texts that are secrets: thirty characters, all of them ASCII letters or digits. -/
def WellFormed (s : String) : Prop :=
  s.length = 30 ∧
    ∀ c ∈ s.toList, ('0' ≤ c ∧ c ≤ '9') ∨ ('A' ≤ c ∧ c ≤ 'Z') ∨ ('a' ≤ c ∧ c ≤ 'z')

/-- An ASCII letter or digit, as a byte. -/
def isAlphanumByte (b : UInt8) : Bool :=
  (48 ≤ b && b ≤ 57) || (65 ≤ b && b ≤ 90) || (97 ≤ b && b ≤ 122)

/-- The bytes of a text in UTF-8. -/
def bytes (s : String) : List UInt8 :=
  s.toByteArray.data.toList

section Characters

theorem isAlphanum_iff_toNat {c : Char} :
    c.isAlphanum = true ↔
      (48 ≤ c.toNat ∧ c.toNat ≤ 57) ∨ (65 ≤ c.toNat ∧ c.toNat ≤ 90) ∨
        (97 ≤ c.toNat ∧ c.toNat ≤ 122) := by
  simp only [Char.isAlphanum, Char.isAlpha, Char.isUpper, Char.isLower, Char.isDigit,
    Bool.or_eq_true, Bool.and_eq_true, decide_eq_true_eq, UInt32.le_iff_toNat_le, ge_iff_le]
  change ((65 ≤ c.toNat ∧ c.toNat ≤ 90) ∨ (97 ≤ c.toNat ∧ c.toNat ≤ 122)) ∨
    (48 ≤ c.toNat ∧ c.toNat ≤ 57) ↔ _
  omega

theorem isAlphanum_iff {c : Char} :
    c.isAlphanum = true ↔
      ('0' ≤ c ∧ c ≤ '9') ∨ ('A' ≤ c ∧ c ≤ 'Z') ∨ ('a' ≤ c ∧ c ≤ 'z') :=
  isAlphanum_iff_toNat

theorem utf8Size_of_isAlphanum {c : Char} (h : c.isAlphanum = true) : c.utf8Size = 1 := by
  rw [isAlphanum_iff_toNat] at h
  rw [Char.utf8Size_eq_one_iff, UInt32.le_iff_toNat_le]
  change c.toNat ≤ 127
  omega

theorem isAlphanumByte_iff {b : UInt8} :
    isAlphanumByte b = true ↔
      (48 ≤ b.toNat ∧ b.toNat ≤ 57) ∨ (65 ≤ b.toNat ∧ b.toNat ≤ 90) ∨
        (97 ≤ b.toNat ∧ b.toNat ≤ 122) := by
  simp only [isAlphanumByte, Bool.or_eq_true, Bool.and_eq_true, decide_eq_true_eq,
    UInt8.le_iff_toNat_le, or_assoc]
  rfl

end Characters

section Bytes

theorem byteLength_toList (s : String) : byteLength s.toList = s.utf8ByteSize := by
  have hlength : (bytes s).length = s.utf8ByteSize := Array.length_toList
  rw [← hlength, bytes, Utf8.toList_toByteArray, List.length_flatMap]
  simp only [String.length_utf8EncodeChar]
  rfl

theorem all_bytes (s : String) : (bytes s).all isAlphanumByte = s.toList.all Char.isAlphanum := by
  refine Utf8.all_toByteArray (fun c hc => ?_) (fun b hb => ?_) (fun c hc => ?_) s
  · rw [Bool.eq_iff_iff, isAlphanumByte_iff, isAlphanum_iff_toNat, Utf8.toNat_byte_of_le hc]
  · rw [Bool.eq_false_iff, ne_eq, isAlphanumByte_iff]
    omega
  · rw [Bool.eq_false_iff, ne_eq, isAlphanum_iff_toNat]
    omega

/-- The check as it is made on the bytes of a text. -/
theorem fault?_eq_of_bytes (s : String) :
    fault? s =
      if s.utf8ByteSize ≠ 30 then some .wrongLength
      else if (bytes s).all isAlphanumByte then none
      else some .notAlphanumeric := by
  rw [fault?, byteLength_toList, all_bytes]
  rfl

/-- A text of letters and digits has as many bytes as characters. -/
theorem utf8ByteSize_eq_length {s : String} (h : ∀ c ∈ s.toList, c.isAlphanum = true) :
    s.utf8ByteSize = s.length := by
  have hsizes : s.toList.map Char.utf8Size = s.toList.map fun _ => 1 :=
    List.map_congr_left fun c hc => utf8Size_of_isAlphanum (h c hc)
  rw [← byteLength_toList, byteLength, hsizes, List.map_const', String.length_toList]
  exact (List.sum_const_nat s.length 1).trans (Nat.mul_one s.length)

theorem fault?_eq_none_iff {s : String} : fault? s = none ↔ WellFormed s := by
  have hfault : fault? s = none ↔ s.utf8ByteSize = 30 ∧ ∀ c ∈ s.toList, c.isAlphanum = true := by
    rw [fault?, byteLength_toList, ← List.all_eq_true]
    split <;> simp_all [length]
  simp only [hfault, WellFormed, ← isAlphanum_iff]
  exact and_congr_left fun h => by rw [utf8ByteSize_eq_length h]

end Bytes

section Routes

variable {s doc : String} {t : Secret}

theorem read_eq_ok_iff : read s = .ok t ↔ t.text = s := by
  constructor
  · intro h
    rw [read] at h
    split at h
    · cases h
      rfl
    · cases h
  · rintro rfl
    exact read_text t

theorem exists_text_eq_iff : (∃ t : Secret, t.text = s) ↔ WellFormed s := by
  rw [← fault?_eq_none_iff]
  constructor
  · rintro ⟨t, rfl⟩
    exact t.fault?_eq
  · intro h
    exact ⟨⟨s, h⟩, rfl⟩

theorem ofJson_eq_ok_iff (h : IsText doc s) : ofJson doc = .ok t ↔ t.text = s := by
  rw [← read_eq_ok_iff, ofJson, document_text h, agreeing_eq_ok_iff, ofHead, Scalar.text_eq_ok_iff,
    Reader.mapError_eq_ok_iff]

theorem exists_read_iff_bytes :
    (∃ t, read s = .ok t) ↔ s.utf8ByteSize = 30 ∧ (bytes s).all isAlphanumByte = true := by
  simp only [read_eq_ok_iff, exists_text_eq_iff, ← fault?_eq_none_iff, fault?_eq_of_bytes]
  split <;> simp_all

/-- Drawn symbols are a secret although they are not checked. -/
theorem read_drawn (draws : Nat → Fin 62) :
    read (String.ofList (drawn draws)) = .ok (generate draws) :=
  read_eq_ok_iff.mpr rfl

end Routes

end Secret

/-- The secret of an issued token is one of those drawn for it, whatever the store answers. -/
theorem Issuer.exists_of_issueFrom_eq_ok {σ : Type} {issuer : Issuer} {store : TokenStore σ}
    {draw : Nat → Secret} {user : UserId} {createdAt : Instant} {ttl : Option UInt64}
    {attempt : UInt32} {drawn : Nat} {s : σ} {token : AuthToken}
    (h : (issuer.issueFrom store draw user createdAt ttl attempt drawn s).result = .ok token) :
    ∃ i, token = ⟨draw i, user, createdAt, ttl⟩ := by
  fun_induction issueFrom issuer store draw user createdAt ttl attempt drawn s
  case case1 drawn _ _ _ _ _ => exact ⟨drawn, (Except.ok.inj h).symm⟩
  case case2 ih => exact ih h
  case case3 => cases h
  case case4 => cases h

/-- Every secret is well formed, whichever way it comes: from a text, from a document, drawn at
random, in an issued token or in one that is found. -/
theorem Secret.always_wellFormed :
    (∀ s, ((∃ t, read s = .ok t) ↔ WellFormed s) ∧
      ((∃ t, read s = .ok t) ↔ s.utf8ByteSize = 30 ∧ (bytes s).all isAlphanumByte = true) ∧
      ∀ t, read s = .ok t → t.text = s ∧ ∀ c ∈ s.toList, c.utf8Size = 1) ∧
    (∀ doc s, IsText doc s →
      ((∃ t, ofJson doc = .ok t) ↔ WellFormed s) ∧ ∀ t, ofJson doc = .ok t → t.text = s) ∧
    (∀ draws, read (String.ofList (drawn draws)) = .ok (generate draws)) ∧
    (∀ (σ : Type) (store : TokenStore σ) (issuer : Issuer) (draws : Nat → Nat → Fin 62) user
        createdAt ttl s token,
      (issuer.issue store (fun i => generate (draws i)) user createdAt ttl s).result = .ok token →
      ∃ i, token = ⟨generate (draws i), user, createdAt, ttl⟩) ∧
    (∀ (store : MemoryStore) secret token, store.find? secret = some token →
      token.secret = secret) ∧
    ∀ t : Secret, WellFormed t.text ∧ ofJson (String.ofList t.toJson) = .ok t := by
  refine ⟨fun s => ⟨?_, exists_read_iff_bytes, fun t ht => ⟨read_eq_ok_iff.mp ht, ?_⟩⟩,
    fun doc s hdoc => ⟨?_, fun t => (ofJson_eq_ok_iff hdoc).mp⟩, read_drawn,
    fun _ _ _ _ _ _ _ _ _ => Issuer.exists_of_issueFrom_eq_ok,
    fun _ _ _ => MemoryStore.secret_of_find?_eq_some, fun t => ⟨?_, ?_⟩⟩
  · simp only [read_eq_ok_iff, exists_text_eq_iff]
  · obtain ⟨-, hall⟩ := exists_text_eq_iff.mp ⟨t, read_eq_ok_iff.mp ht⟩
    exact fun c hc => utf8Size_of_isAlphanum (isAlphanum_iff.mpr (hall c hc))
  · simp only [ofJson_eq_ok_iff hdoc, exists_text_eq_iff]
  · exact exists_text_eq_iff.mp ⟨t, rfl⟩
  · exact (ofJson_eq_ok_iff (isText_write t.text)).mpr rfl

/-- Thirty times the letter A, in a document and drawn for a token; and a text of thirty bytes that
are not thirty characters. -/
theorem Secret.always_wellFormed_letters :
    let text := String.ofList (List.replicate 30 'A')
    let wide := String.ofList ('é' :: List.replicate 28 'A')
    let secret := generate fun _ => 0
    let createdAt : Instant := ⟨0, 0, by decide, by decide, by decide⟩
    let issued := Issuer.new.issue MemoryStore.tokenStore (fun _ => secret) ⟨⟨7⟩⟩ createdAt none
      .empty
    read text = .ok secret ∧ (∀ c ∈ text.toList, c.utf8Size = 1) ∧
      (∃ t, ofJson (String.ofList (Literal.write text)) = .ok t) ∧
      wide.utf8ByteSize = 30 ∧ (¬ ∃ t, ofJson (String.ofList (Literal.write wide)) = .ok t) ∧
      (∃ token, issued.result = .ok token ∧ token = ⟨secret, ⟨⟨7⟩⟩, createdAt, none⟩) ∧
      ∃ token, issued.store.find? secret = some token ∧ token.secret = secret := by
  intro text wide secret createdAt issued
  obtain ⟨hread, hjson, -, hissue, hfind, -⟩ := always_wellFormed
  have hdrawn : drawn (fun _ => 0) = List.replicate 30 'A' := by decide
  have htext : read text = .ok secret := read_eq_ok_iff.mpr (congrArg String.ofList hdrawn)
  have hformed : WellFormed text := (hread text).1.mp ⟨secret, htext⟩
  have hwide : ¬ WellFormed wide := fun h => absurd h.1 (by decide)
  have hresult : issued.result = .ok ⟨secret, ⟨⟨7⟩⟩, createdAt, none⟩ := by
    simp only [issued, Issuer.issue]
    rw [Issuer.issueFrom]
    rfl
  have hfound : issued.store.find? secret = some ⟨secret, ⟨⟨7⟩⟩, createdAt, none⟩ := by
    simp only [issued, Issuer.issue]
    rw [Issuer.issueFrom]
    rfl
  obtain ⟨-, htoken⟩ := hissue _ _ _ (fun _ _ => 0) _ _ _ _ _ hresult
  exact ⟨htext, ((hread text).2.2 secret htext).2,
    (hjson _ text (isText_write text)).1.mpr hformed, by decide,
    fun h => hwide ((hjson _ wide (isText_write wide)).1.mp h), ⟨_, hresult, htoken⟩,
    _, hfound, hfind _ _ _ hfound⟩

end Snowflake
