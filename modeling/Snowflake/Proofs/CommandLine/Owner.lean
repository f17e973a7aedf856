import Snowflake.Proofs.CommandLine.Decode
import Snowflake.Proofs.Token.Issue

/-!
Owners of tokens on the command line. A text names a user if it is a numeral of 64 bits, with the
kind of users in front or without; an identifier of any other kind is recognised and refused, and no
token is printed.
-/

namespace Snowflake.CommandLine

open Decimal Reader

namespace LooseId

variable {s : String} {id : LooseId}

/-- The colon decides which reader the reason comes from. -/
theorem read_eq_error_iff {e : InvalidId} :
    read s = .error e ↔
      (':' ∈ s.toList ∧ TaggedId.read s = .error e) ∨
        ':' ∉ s.toList ∧ ∃ cause, Flake.read s = .error cause ∧ e = .invalidFlake cause := by
  rw [read]
  by_cases hcolon : ':' ∈ s.toList
  · rw [if_pos hcolon, map_eq_error_iff]
    simp [hcolon]
  · rw [if_neg hcolon]
    cases Flake.read s <;> simp [hcolon, eq_comm]

/-- A text without a colon is never asked for its kind. -/
theorem read_ne_missingKind (s input : String) : read s ≠ .error (.missingKind input) := by
  intro h
  rcases read_eq_error_iff.mp h with ⟨hcolon, hread⟩ | ⟨-, cause, -, hcause⟩
  · cases TaggedId.read_eq_error_iff.mp hread with
    | missingKind hnone => exact hnone hcolon
  · cases hcause

theorem toUser_eq_ok_iff {u : UserId} :
    id.toUser = .ok u ↔ id = ⟨none, u.flake⟩ ∨ id = ⟨some .user, u.flake⟩ := by
  obtain ⟨kind, flake⟩ := id
  obtain ⟨f⟩ := u
  cases kind with
  | none => simp [toUser]
  | some k => by_cases hk : k = .user <;> simp [toUser, TaggedId.ofKind, hk]

theorem toUser_eq_error_iff {e : KindMismatch} :
    id.toUser = .error e ↔ ∃ k, k ≠ .user ∧ id.kind = some k ∧ e = ⟨.user, k⟩ := by
  obtain ⟨kind, flake⟩ := id
  cases kind with
  | none => simp [toUser]
  | some k => by_cases hk : k = .user <;> simp [toUser, TaggedId.ofKind, hk, eq_comm]

end LooseId

section Owner

variable {s : String} {u : UserId}

theorem readOwner_eq_ok_iff_exists :
    readOwner s = .ok u ↔ ∃ id, LooseId.read s = .ok id ∧ id.toUser = .ok u := by
  rw [readOwner]
  rcases LooseId.read s with e | id
  · simp
  · simp [mapError_eq_ok_iff]

theorem readOwner_eq_notAUser_iff_exists {e : KindMismatch} :
    readOwner s = .error (.notAUser e) ↔
      ∃ id, LooseId.read s = .ok id ∧ id.toUser = .error e := by
  rw [readOwner]
  rcases LooseId.read s with e' | id
  · simp
  · simp [mapError_eq_error_iff]

theorem readOwner_eq_invalidId_iff {e : InvalidId} :
    readOwner s = .error (.invalidId e) ↔ LooseId.read s = .error e := by
  rw [readOwner]
  rcases LooseId.read s with e' | id
  · simp
  · simp [mapError_eq_error_iff]

theorem readOwner_eq_ok_iff :
    readOwner s = .ok u ↔
      ∃ ds, (s.toList = ds ∨ s.toList = "user:".toList ++ ds) ∧ IsNumeral ds u.flake.toNat := by
  simp only [readOwner_eq_ok_iff_exists, LooseId.read_eq_ok_iff, LooseId.toUser_eq_ok_iff]
  constructor
  · rintro ⟨id, ⟨ds, hs, hds⟩, rfl | rfl⟩
    · exact ⟨ds, .inl hs, hds⟩
    · exact ⟨ds, .inr hs, hds⟩
  · rintro ⟨ds, hs | hs, hds⟩
    · exact ⟨⟨none, u.flake⟩, ⟨ds, hs, hds⟩, .inl rfl⟩
    · exact ⟨⟨some .user, u.flake⟩, ⟨ds, hs, hds⟩, .inr rfl⟩

theorem readOwner_eq_notAUser_iff {e : KindMismatch} :
    readOwner s = .error (.notAUser e) ↔
      ∃ (k : Kind) (ds : List Char) (f : Flake), k ≠ .user ∧
        s.toList = k.name.toList ++ ':' :: ds ∧ IsNumeral ds f.toNat ∧ e = ⟨.user, k⟩ := by
  simp only [readOwner_eq_notAUser_iff_exists, LooseId.read_eq_ok_iff,
    LooseId.toUser_eq_error_iff]
  constructor
  · rintro ⟨⟨kind, f⟩, ⟨ds, hs, hds⟩, k, hk, rfl, rfl⟩
    exact ⟨k, ds, f, hk, by simpa [LooseId.lead] using hs, hds, rfl⟩
  · rintro ⟨k, ds, f, hk, hs, hds, rfl⟩
    exact ⟨⟨some k, f⟩, ⟨ds, by simpa [LooseId.lead] using hs, hds⟩, k, hk, rfl, rfl⟩

/-- Both spellings of a user. -/
theorem readOwner_of_isNumeral (h : IsNumeral s.toList u.flake.toNat) :
    readOwner s = .ok u ∧ readOwner ("user:" ++ s) = .ok u := by
  refine ⟨readOwner_eq_ok_iff.mpr ⟨s.toList, .inl rfl, h⟩, ?_⟩
  exact readOwner_eq_ok_iff.mpr ⟨s.toList, .inr (String.toList_append ..), h⟩

end Owner

section Run

variable (config : Config) (world : World) (limit : Nat) {user : String} (ttl : Option UInt64)

theorem run_issue_of_error {e : InvalidOwner} (h : readOwner user = .error e) :
    (Command.issue user ttl).run config world limit = some ⟨"", some (.invalidOwner user e)⟩ := by
  rw [Command.run, issue, h]
  rfl

/-- The store is empty, so that the first secret is free. -/
theorem issue_new_empty (draw : Nat → Secret) (u : UserId) (now : Instant) :
    (Issuer.new.issue MemoryStore.tokenStore draw u now ttl .empty).result =
      .ok ⟨draw 0, u, now, ttl⟩ := by
  have hbound : 0 < Issuer.new.maxAttempts.toNat := by decide
  have htaken : ∀ j < 0, (MemoryStore.empty.find? (draw j)).isSome := nofun
  obtain ⟨s, hissue, -⟩ := Issuer.issue_of_free hbound htaken rfl
  rw [hissue, Issuer.records]

theorem run_issue_of_ok {u : UserId} (h : readOwner user = .ok u) :
    (Command.issue user ttl).run config world limit =
      some (.success (String.ofList (Json.Object.block
        (AuthToken.members ⟨.generate world.draws, u, world.now, ttl⟩) ++ ['\n']))) := by
  have hfirst : (fun j => world.draws (0 * Secret.length + j)) = world.draws := by
    funext j
    rw [Nat.zero_mul, Nat.zero_add]
  rw [Command.run, issue, h]
  simp only [Except.mapError, ok_bind, issue_new_empty, hfirst]
  rfl

end Run

/-- No identifier of another kind becomes the owner of a token. A text is taken exactly if it is a
numeral of 64 bits, with the kind of users in front or without, and both spellings name the same
user. An identifier of another kind is refused as such, and any other text with the reason of the
reader that its colon selects, which is never that a kind is missing. An issue to a text that is
refused prints nothing and fails for this reason, and any other prints the token of the user. -/
theorem readOwner_takes_only_users :
    (∀ s u, readOwner s = .ok u ↔
      ∃ ds, (s.toList = ds ∨ s.toList = "user:".toList ++ ds) ∧ IsNumeral ds u.flake.toNat) ∧
    (∀ (s : String) (u : UserId), IsNumeral s.toList u.flake.toNat →
      readOwner s = .ok u ∧ readOwner ("user:" ++ s) = .ok u) ∧
    (∀ s e, readOwner s = .error (.notAUser e) ↔
      ∃ (k : Kind) (ds : List Char) (f : Flake), k ≠ .user ∧
        s.toList = k.name.toList ++ ':' :: ds ∧ IsNumeral ds f.toNat ∧ e = ⟨.user, k⟩) ∧
    (∀ s e, readOwner s = .error (.invalidId e) ↔
      (':' ∈ s.toList ∧ TaggedId.read s = .error e) ∨
        ':' ∉ s.toList ∧ ∃ cause, Flake.read s = .error cause ∧ e = .invalidFlake cause) ∧
    (∀ s input, readOwner s ≠ .error (.invalidId (.missingKind input))) ∧
    ∀ config world limit user ttl,
      (∀ e, readOwner user = .error e →
        (Command.issue user ttl).run config world limit =
          some ⟨"", some (.invalidOwner user e)⟩) ∧
      ∀ u, readOwner user = .ok u →
        (Command.issue user ttl).run config world limit =
          some (.success (String.ofList (Json.Object.block
            (AuthToken.members ⟨.generate world.draws, u, world.now, ttl⟩) ++ ['\n']))) := by
  refine ⟨fun s u => readOwner_eq_ok_iff, fun s u => readOwner_of_isNumeral,
    fun s e => readOwner_eq_notAUser_iff, fun s e => ?_, fun s input hread => ?_,
    fun config world limit user ttl => ⟨fun e => ?_, fun u => ?_⟩⟩
  · rw [readOwner_eq_invalidId_iff, LooseId.read_eq_error_iff]
  · exact LooseId.read_ne_missingKind s input (readOwner_eq_invalidId_iff.mp hread)
  · exact run_issue_of_error config world limit ttl
  · exact run_issue_of_ok config world limit ttl

/-- A user with zeros in front and without a kind, and a post. -/
theorem readOwner_takes_only_users_not_posts :
    let world : World :=
      ⟨fun _ => 0, fun _ _ => .zero, ⟨0, 0, by decide, by decide, by decide⟩, fun _ => 0⟩
    let u : UserId := ⟨⟨42⟩⟩
    IsNumeral "0042".toList u.flake.toNat ∧ readOwner "user:0042" = .ok u ∧
      (Command.issue "0042" none).run .default world 0 =
        some (.success (String.ofList (Json.Object.block
          (AuthToken.members ⟨.generate world.draws, u, world.now, none⟩) ++ ['\n']))) ∧
      (Command.issue "post:42" none).run .default world 0 =
        some ⟨"", some (.invalidOwner "post:42" (.notAUser ⟨.user, .post⟩))⟩ := by
  intro world u
  obtain ⟨-, hspellings, hother, -, -, hrun⟩ := readOwner_takes_only_users
  have hnumeral : IsNumeral "0042".toList u.flake.toNat := ⟨by decide, by decide, by decide⟩
  have hpost : readOwner "post:42" = .error (.notAUser ⟨.user, .post⟩) :=
    (hother _ _).mpr ⟨.post, ['4', '2'], ⟨42⟩, by decide, by decide,
      ⟨by decide, by decide, by decide⟩, rfl⟩
  obtain ⟨hplain, htagged⟩ := hspellings "0042" u hnumeral
  exact ⟨hnumeral, htagged, (hrun .default world 0 "0042" none).2 u hplain,
    (hrun .default world 0 "post:42" none).1 _ hpost⟩

end Snowflake.CommandLine
