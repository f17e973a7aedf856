import Snowflake.Json.Identity
import Snowflake.Proofs.Flake.Text
import Snowflake.Proofs.Json.Document

/-!
Tagged identifiers as texts. No kind has a colon in its name, so that a text is cut at its first
colon where the kind ends, and nothing is read in two ways.
-/

namespace Snowflake

open Json Decimal

namespace Kind

theorem colon_not_mem_name (k : Kind) : ':' ∉ k.name.toList := by
  cases k <;> decide

theorem read_eq_ok_iff {s : String} {k : Kind} : read s = .ok k ↔ k.name = s := by
  rw [eq_comm (b := s), ← ofName?_eq_some_iff, read]
  cases ofName? s <;> simp

theorem read_eq_error_iff {s : String} {e : UnknownKind} :
    read s = .error e ↔ e = ⟨s⟩ ∧ ∀ k : Kind, k.name ≠ s := by
  simp only [ne_eq, ← read_eq_ok_iff]
  rw [read]
  rcases ofName? s with _ | k
  · simp [eq_comm]
  · simp

end Kind

namespace TaggedId

theorem splitKind?_append {kind : List Char} (h : ':' ∉ kind) (rest : List Char) :
    splitKind? (kind ++ ':' :: rest) = some (kind, rest) := by
  induction kind with
  | nil => rfl
  | cons c kind ih =>
      obtain ⟨hc, hkind⟩ := List.ne_and_not_mem_of_not_mem_cons h
      rw [List.cons_append, splitKind?, if_neg (Ne.symm hc), ih hkind]
      rfl

theorem splitKind?_of_not_mem {cs : List Char} (h : ':' ∉ cs) : splitKind? cs = none := by
  induction cs with
  | nil => rfl
  | cons c cs ih =>
      obtain ⟨hc, hcs⟩ := List.ne_and_not_mem_of_not_mem_cons h
      rw [splitKind?, if_neg (Ne.symm hc), ih hcs]
      rfl

/-- Why a text is not a tagged identifier. The first colon ends the kind, and all that follows it is
the number. -/
inductive Refused (s : String) : InvalidId → Prop
  | missingKind (h : ':' ∉ s.toList) : Refused s (.missingKind s)
  | unknownKind {kind : String} {number : List Char}
      (hs : s.toList = kind.toList ++ ':' :: number) (hcolon : ':' ∉ kind.toList)
      (hkind : ∀ k : Kind, k.name ≠ kind) : Refused s (.unknownKind ⟨kind⟩)
  | invalidFlake {k : Kind} {number : String}
      (hs : s.toList = k.name.toList ++ ':' :: number.toList)
      (hnumber : ∀ f : Flake, ¬ IsNumeral number.toList f.toNat) :
      Refused s (.invalidFlake ⟨number⟩)

theorem read_of_kind {s kind number : String}
    (hs : s.toList = kind.toList ++ ':' :: number.toList) (hcolon : ':' ∉ kind.toList) :
    read s =
      match Kind.read kind, Flake.read number with
      | .error e, _ => .error (.unknownKind e)
      | .ok _, .error e => .error (.invalidFlake e)
      | .ok k, .ok f => .ok ⟨k, f⟩ := by
  rw [read, hs, splitKind?_append hcolon]
  simp only [String.ofList_toList]
  cases Kind.read kind <;> cases Flake.read number <;> rfl

/-- A text is cut at its first colon if it has one. -/
theorem exists_kind_of_colon_mem {s : String} (h : ':' ∈ s.toList) :
    ∃ kind number : String,
      s.toList = kind.toList ++ ':' :: number.toList ∧ ':' ∉ kind.toList := by
  obtain ⟨kind, number, hs, hcolon⟩ := List.eq_append_cons_of_mem h
  exact ⟨.ofList kind, .ofList number, by simpa using hs, by simpa using hcolon⟩

theorem read_of_isNumeral {s : String} {k : Kind} {f : Flake} {ds : List Char}
    (hs : s.toList = k.name.toList ++ ':' :: ds) (hds : IsNumeral ds f.toNat) :
    read s = .ok ⟨k, f⟩ := by
  have hs' : s.toList = k.name.toList ++ ':' :: (String.ofList ds).toList := by
    rw [hs, String.toList_ofList]
  have hnumber : Flake.read (String.ofList ds) = .ok f :=
    Flake.read_eq_ok_iff.mpr (by rwa [String.toList_ofList])
  rw [read_of_kind hs' k.colon_not_mem_name, Kind.read_eq_ok_iff.mpr rfl, hnumber]

theorem read_of_refused {s : String} {e : InvalidId} (h : Refused s e) : read s = .error e := by
  cases h with
  | missingKind hcolon => rw [read, splitKind?_of_not_mem hcolon]
  | @unknownKind kind number hs hcolon hkind =>
      have hs' : s.toList = kind.toList ++ ':' :: (String.ofList number).toList := by
        rw [hs, String.toList_ofList]
      rw [read_of_kind hs' hcolon, Kind.read_eq_error_iff.mpr ⟨rfl, hkind⟩]
  | @invalidFlake k number hs hnumber =>
      rw [read_of_kind hs k.colon_not_mem_name, Kind.read_eq_ok_iff.mpr rfl,
        Flake.read_eq_error_iff.mpr ⟨rfl, hnumber⟩]

/-- Every text is a tagged identifier or there is a reason why it is none. -/
theorem isNumeral_or_refused (s : String) :
    (∃ (k : Kind) (f : Flake) (ds : List Char),
      s.toList = k.name.toList ++ ':' :: ds ∧ IsNumeral ds f.toNat) ∨ ∃ e, Refused s e := by
  by_cases hcolon : ':' ∈ s.toList
  · obtain ⟨kind, number, hs, hfirst⟩ := exists_kind_of_colon_mem hcolon
    by_cases hkind : ∃ k : Kind, k.name = kind
    · obtain ⟨k, rfl⟩ := hkind
      by_cases hnumber : ∃ f : Flake, IsNumeral number.toList f.toNat
      · obtain ⟨f, hf⟩ := hnumber
        exact .inl ⟨k, f, number.toList, hs, hf⟩
      · exact .inr ⟨_, .invalidFlake hs (not_exists.mp hnumber)⟩
    · exact .inr ⟨_, .unknownKind hs hfirst (not_exists.mp hkind)⟩
  · exact .inr ⟨_, .missingKind hcolon⟩

theorem read_eq_ok_iff {s : String} {k : Kind} {f : Flake} :
    read s = .ok ⟨k, f⟩ ↔
      ∃ ds, s.toList = k.name.toList ++ ':' :: ds ∧ IsNumeral ds f.toNat := by
  constructor
  · intro h
    rcases isNumeral_or_refused s with ⟨k', f', ds, hs, hds⟩ | ⟨e, he⟩
    · rw [read_of_isNumeral hs hds] at h
      cases h
      exact ⟨ds, hs, hds⟩
    · rw [read_of_refused he] at h
      cases h
  · rintro ⟨ds, hs, hds⟩
    exact read_of_isNumeral hs hds

theorem read_eq_error_iff {s : String} {e : InvalidId} : read s = .error e ↔ Refused s e := by
  constructor
  · intro h
    rcases isNumeral_or_refused s with ⟨k, f, ds, hs, hds⟩ | ⟨e', he⟩
    · rw [read_of_isNumeral hs hds] at h
      cases h
    · rw [read_of_refused he] at h
      cases h
      exact he
  · exact read_of_refused

theorem read_text (t : TaggedId) : read t.text = .ok t := by
  have hs : t.text.toList = t.kind.name.toList ++ ':' :: t.flake.text.toList := by
    simp [text]
  rw [read_of_kind hs t.kind.colon_not_mem_name, Kind.read_eq_ok_iff.mpr rfl, Flake.read_text]

theorem text_injective : Function.Injective text := by
  intro t t' h
  have hread := read_text t
  rw [h, read_text] at hread
  exact (Except.ok.inj hread).symm

theorem ofJson_eq_ok_iff {doc : String} {t : TaggedId} :
    ofJson doc = .ok t ↔ ∃ s, IsText doc s ∧ read s = .ok t := by
  simp only [ofJson, ofHead, document_text_eq_ok_iff, Reader.mapError_eq_ok_iff]

theorem ofJson_of_isText {doc s : String} (h : IsText doc s) (t : TaggedId) :
    ofJson doc = .ok t ↔ read s = .ok t := by
  rw [ofJson, document_text h, agreeing_eq_ok_iff, ofHead, Scalar.text_eq_ok_iff,
    Reader.mapError_eq_ok_iff]

theorem ofJson_toJson (t : TaggedId) : ofJson (String.ofList t.toJson) = .ok t :=
  ofJson_eq_ok_iff.mpr ⟨t.text, isText_write t.text, read_text t⟩

theorem ofKind_tagged {k : Kind} (id : Id k) (k' : Kind) :
    (k' = k → id.tagged.ofKind k' = .ok ⟨id.flake⟩) ∧
      (k' ≠ k → id.tagged.ofKind k' = .error ⟨k', k⟩) := by
  constructor
  · rintro rfl
    exact if_pos rfl
  · intro h
    exact if_neg h.symm

/-- The texts of tagged identifiers are an unambiguous format. Each is read back, alone and in JSON,
and two are never the same. A text is read exactly if it is a kind, a colon and a numeral that fits
64 bits, and every other text is refused for what comes first in it. Read back, an identifier is of
the kind it was made of and of no other. -/
theorem text_unambiguous :
    (∀ t : TaggedId, read t.text = .ok t ∧ ofJson (String.ofList t.toJson) = .ok t) ∧
      Function.Injective text ∧
      (∀ s k f, read s = .ok ⟨k, f⟩ ↔
        ∃ ds, s.toList = k.name.toList ++ ':' :: ds ∧ IsNumeral ds f.toNat) ∧
      (∀ s e, read s = .error e ↔ Refused s e) ∧
      (∀ doc t, ofJson doc = .ok t ↔ ∃ s, IsText doc s ∧ read s = .ok t) ∧
      (∀ doc s, IsText doc s → ∀ t, ofJson doc = .ok t ↔ read s = .ok t) ∧
      ∀ (k : Kind) (id : Id k) (k' : Kind), ∃ t, read id.tagged.text = .ok t ∧
        (k' = k → t.ofKind k' = .ok ⟨id.flake⟩) ∧ (k' ≠ k → t.ofKind k' = .error ⟨k', k⟩) := by
  refine ⟨fun t => ⟨read_text t, ofJson_toJson t⟩, text_injective, fun _ _ _ => read_eq_ok_iff,
    fun _ _ => read_eq_error_iff, fun _ _ => ofJson_eq_ok_iff, fun _ _ => ofJson_of_isText, ?_⟩
  intro k id k'
  exact ⟨id.tagged, read_text id.tagged, ofKind_tagged id k'⟩

/-- A zero in front of the number and blanks around the text change nothing, a second colon does. -/
theorem text_unambiguous_post_eight :
    read "post:08" = .ok ⟨.post, ⟨8⟩⟩ ∧ IsText " \"post:08\" " "post:08" ∧
      ofJson " \"post:08\" " = .ok ⟨.post, ⟨8⟩⟩ ∧
      read "post:0:8" = .error (.invalidFlake ⟨"0:8"⟩) ∧
      ∃ t, read (Id.tagged (⟨⟨8⟩⟩ : PostId)).text = .ok t ∧
        t.ofKind .user = .error ⟨.user, .post⟩ := by
  obtain ⟨-, -, hread, hrefused, -, hjson, hkind⟩ := text_unambiguous
  have hpost : read "post:08" = .ok ⟨.post, ⟨8⟩⟩ :=
    (hread _ _ _).mpr ⟨['0', '8'], by decide, by decide, by decide, by decide⟩
  have hdoc : IsText " \"post:08\" " "post:08" :=
    ⟨[' '], "post:08".toList.flatMap Literal.escape, [' '], by decide, by decide, by decide,
      Literal.spells_flatMap_escape _⟩
  have hnumber (f : Flake) : ¬ IsNumeral "0:8".toList f.toNat :=
    fun h => absurd h.all_isDigit (by decide)
  obtain ⟨t, ht, -, huser⟩ := hkind .post ⟨⟨8⟩⟩ .user
  exact ⟨hpost, hdoc, (hjson _ _ hdoc _).mpr hpost,
    (hrefused _ _).mpr (.invalidFlake (k := .post) (by decide) hnumber), t, ht,
    huser (by decide)⟩

end TaggedId

end Snowflake
