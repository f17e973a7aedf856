import Snowflake.Json.Token
import Snowflake.Proofs.Json.Identity
import Snowflake.Proofs.Json.Record
import Snowflake.Proofs.Time.Timestamp

/-!
Auth tokens read back. A stored token keeps its secret, its user, its instant to the nanosecond and
its time to live, so that it expires as it did before.
-/

namespace Snowflake

open Json Layout

namespace Secret

theorem read_text (s : Secret) : read s.text = .ok s := by
  have hvalid := s.fault?_eq
  rw [read]
  split
  · rfl
  · rename_i fault hfault
    rw [hvalid] at hfault
    cases hfault

theorem ofHead_text (s : Secret) : ofHead (.text s.text) = .ok s := by
  rw [ofHead, Scalar.text_eq_ok_iff, read_text]
  rfl

end Secret

theorem Instant.ofHead_text {i : Instant} (h : i.IsRegular) :
    Instant.ofHead (.text (Timestamp.text i)) = .ok i := by
  rw [Instant.ofHead, Scalar.text_eq_ok_iff, Timestamp.text, String.toList_ofList,
    Timestamp.read_write (.inl h)]
  rfl

namespace AuthToken

/-- The draft of `t` when the fields `given` were given. -/
def drafted (t : AuthToken) (given : List String) : Draft :=
  ⟨pick given "token" t.secret, pick given "user" t.user, pick given "created_at" t.createdAt,
    pick given "expires_after_seconds" t.ttl⟩

theorem tracks {t : AuthToken} (h : t.createdAt.IsRegular) :
    layout.Tracks t.members t.drafted where
  blank := rfl
  takes := by
    simp only [members, List.forall_mem_cons]
    refine ⟨?_, ?_, ?_, ?_, List.forall_mem_nil _⟩
    · intro given hnew
      exact ⟨Draft.secretField, .text t.secret.text, rfl, isSome_pick_of_not_mem hnew,
        denotes_write _, by simp [Draft.secretField, drafted, Secret.ofHead_text]⟩
    · intro given hnew
      exact ⟨Draft.userField, .text t.user.text, rfl, isSome_pick_of_not_mem hnew,
        denotes_write _, by simp [Draft.userField, drafted, Id.ofHead_text]⟩
    · intro given hnew
      exact ⟨Draft.createdAtField, .text (Timestamp.text t.createdAt), rfl,
        isSome_pick_of_not_mem hnew, denotes_write _,
        by simp [Draft.createdAtField, drafted, Instant.ofHead_text h]⟩
    · intro given hnew
      obtain ⟨head, hdenotes, hhead⟩ := exists_denotes_writeOptional t.ttl
      exact ⟨Draft.ttlField, head, rfl, isSome_pick_of_not_mem hnew, hdenotes,
        by simp [Draft.ttlField, drafted, hhead]⟩

/-- A time to live that is left out is none. -/
theorem finish_drafted (t : AuthToken) {given : List String} (hsecret : "token" ∈ given)
    (huser : "user" ∈ given) (hcreatedAt : "created_at" ∈ given)
    (httl : "expires_after_seconds" ∈ given ∨ t.ttl = none) :
    layout.finish (t.drafted given) = .ok t := by
  have hpick : (pick given "expires_after_seconds" t.ttl).getD none = t.ttl := by
    rcases httl with hgiven | hnone
    · rw [pick_of_mem hgiven]
      rfl
    · rw [hnone, pick]
      split <;> rfl
  simp only [layout, drafted, pick_of_mem hsecret, pick_of_mem huser, pick_of_mem hcreatedAt, hpick]
  rfl

/-- The members of `t` but for its time to live. -/
def untimedMembers (t : AuthToken) : List Member :=
  t.members.filter fun m => m.1 ≠ "expires_after_seconds"

theorem untimedMembers_eq (t : AuthToken) : t.untimedMembers =
    [("token", t.secret.toJson), ("user", t.user.toJson), ("created_at", t.createdAt.toJson)] := by
  simp [untimedMembers, members]

theorem ofJson_of_perm {t : AuthToken} (h : t.createdAt.IsRegular) {ms : List Member}
    (hms : ms.Perm t.members ∨ t.ttl = none ∧ ms.Perm t.untimedMembers) :
    ofJson (String.ofList (Object.line ms)) = .ok t := by
  rcases hms with hms | ⟨httl, hms⟩
  · apply (tracks h).document_perm hms (List.Subset.refl _) (by simp [members])
    intro given hgiven
    simp only [members, List.forall_mem_cons] at hgiven
    obtain ⟨hsecret, huser, hcreatedAt, hgiven, -⟩ := hgiven
    exact t.finish_drafted hsecret huser hcreatedAt (.inl hgiven)
  · apply (tracks h).document_perm hms (List.filter_subset_self _) (by simp [untimedMembers_eq])
    intro given hgiven
    simp only [untimedMembers_eq, List.forall_mem_cons] at hgiven
    obtain ⟨hsecret, huser, hcreatedAt, -⟩ := hgiven
    exact t.finish_drafted hsecret huser hcreatedAt (.inr httl)

/-- Tokens survive storage: what is written for a token is read back as the same token, also when
its fields come in another order, and when a time to live that it does not have is left out. So it
expires when it did, and is valid when it was. -/
theorem survives_storage (t : AuthToken) (h : t.createdAt.IsRegular) :
    ofJson (String.ofList t.toJson) = .ok t ∧
      ∀ ms, ms.Perm t.members ∨ t.ttl = none ∧ ms.Perm t.untimedMembers →
        ofJson (String.ofList (Object.line ms)) = .ok t ∧
          (ofJson (String.ofList (Object.line ms))).map expiresAt? = .ok t.expiresAt? ∧
          ∀ now, (ofJson (String.ofList (Object.line ms))).map (validate · now) =
            .ok (t.validate now) := by
  refine ⟨ofJson_of_perm h (.inl (.refl _)), ?_⟩
  intro ms hms
  rw [ofJson_of_perm h hms]
  exact ⟨rfl, rfl, fun _ => rfl⟩

/-- The first instant with the longest time to live, and the last instant with none, with the fields
from last to first. -/
theorem survives_storage_first_and_last :
    let secret := Secret.generate fun _ => 0
    let first : AuthToken := ⟨secret, ⟨⟨0⟩⟩,
      ⟨-8334601228800, 0, by decide, by decide, by decide⟩, some 0xFFFFFFFFFFFFFFFF⟩
    let last : AuthToken := ⟨secret, ⟨⟨0xFFFFFFFFFFFFFFFF⟩⟩,
      ⟨8210266876799, 999999999, by decide, by decide, by decide⟩, none⟩
    (first.createdAt.IsRegular ∧ first.members.reverse.Perm first.members ∧
        ofJson (String.ofList (Object.line first.members.reverse)) = .ok first) ∧
      last.createdAt.IsRegular ∧ last.untimedMembers.reverse.Perm last.untimedMembers ∧
        ofJson (String.ofList (Object.line last.untimedMembers.reverse)) = .ok last := by
  intro secret first last
  have hfirst : first.createdAt.IsRegular := by decide
  have hlast : last.createdAt.IsRegular := by decide
  have hreverse := first.members.reverse_perm
  have huntimed := last.untimedMembers.reverse_perm
  exact ⟨⟨hfirst, hreverse, ((first.survives_storage hfirst).2 _ (.inl hreverse)).1⟩, hlast,
    huntimed, ((last.survives_storage hlast).2 _ (.inr ⟨rfl, huntimed⟩)).1⟩

end AuthToken

end Snowflake
