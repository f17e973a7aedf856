import Snowflake.Json.Account
import Snowflake.Proofs.Json.Identity
import Snowflake.Proofs.Json.Record

/-!
Users and posts read back: every handle and every content survives escaping, every identifier its
decimal text, and the fields may come in any order.
-/

namespace Snowflake

open Json Layout

namespace Handle

theorem read_text (h : Handle) : read h.text = .ok h := by
  have hvalid := h.fault?_eq
  rw [read]
  split
  · rfl
  · rename_i fault hfault
    rw [hvalid] at hfault
    cases hfault

theorem ofHead_text (h : Handle) : ofHead (.text h.text) = .ok h := by
  rw [ofHead, Scalar.text_eq_ok_iff, read_text]
  rfl

end Handle

namespace User

/-- The draft of `u` when the fields `given` were given. -/
def drafted (u : User) (given : List String) : Draft :=
  ⟨pick given "id" u.id, pick given "handle" u.handle⟩

theorem tracks (u : User) : layout.Tracks u.members u.drafted where
  blank := rfl
  takes := by
    simp only [members, List.forall_mem_cons]
    refine ⟨?_, ?_, List.forall_mem_nil _⟩
    · intro given hnew
      exact ⟨Draft.idField, .text u.id.text, rfl, isSome_pick_of_not_mem hnew, denotes_write _,
        by simp [Draft.idField, drafted, Id.ofHead_text]⟩
    · intro given hnew
      exact ⟨Draft.handleField, .text u.handle.text, rfl, isSome_pick_of_not_mem hnew,
        denotes_write _, by simp [Draft.handleField, drafted, Handle.ofHead_text]⟩

theorem finish_drafted (u : User) {given : List String} (h : ∀ m ∈ u.members, m.1 ∈ given) :
    layout.finish (u.drafted given) = .ok u := by
  simp only [members, List.forall_mem_cons] at h
  obtain ⟨hid, hhandle, -⟩ := h
  simp only [layout, drafted, pick_of_mem hid, pick_of_mem hhandle]
  rfl

theorem ofJson_of_perm (u : User) {ms : List Member} (h : ms.Perm u.members) :
    ofJson (String.ofList (Object.line ms)) = .ok u :=
  u.tracks.document_perm h (List.Subset.refl _) (by simp [members]) fun _ => u.finish_drafted

end User

namespace NewUser

def drafted (n : NewUser) (given : List String) : Draft :=
  ⟨pick given "handle" n.handle⟩

theorem tracks (n : NewUser) : layout.Tracks n.members n.drafted where
  blank := rfl
  takes := by
    simp only [members, List.forall_mem_cons]
    refine ⟨?_, List.forall_mem_nil _⟩
    intro given hnew
    exact ⟨Draft.handleField, .text n.handle.text, rfl, isSome_pick_of_not_mem hnew,
      denotes_write _, by simp [Draft.handleField, drafted, Handle.ofHead_text]⟩

theorem finish_drafted (n : NewUser) {given : List String} (h : ∀ m ∈ n.members, m.1 ∈ given) :
    layout.finish (n.drafted given) = .ok n := by
  simp only [members, List.forall_mem_cons] at h
  simp only [layout, drafted, pick_of_mem h.1]
  rfl

theorem ofJson_of_perm (n : NewUser) {ms : List Member} (h : ms.Perm n.members) :
    ofJson (String.ofList (Object.line ms)) = .ok n :=
  n.tracks.document_perm h (List.Subset.refl _) (by simp [members]) fun _ => n.finish_drafted

end NewUser

namespace Post

def drafted (p : Post) (given : List String) : Draft :=
  ⟨pick given "id" p.id, pick given "author" p.author, pick given "content" p.content⟩

theorem tracks (p : Post) : layout.Tracks p.members p.drafted where
  blank := rfl
  takes := by
    simp only [members, List.forall_mem_cons]
    refine ⟨?_, ?_, ?_, List.forall_mem_nil _⟩
    · intro given hnew
      exact ⟨Draft.idField, .text p.id.text, rfl, isSome_pick_of_not_mem hnew, denotes_write _,
        by simp [Draft.idField, drafted, Id.ofHead_text]⟩
    · intro given hnew
      exact ⟨Draft.authorField, .text p.author.text, rfl, isSome_pick_of_not_mem hnew,
        denotes_write _, by simp [Draft.authorField, drafted, Id.ofHead_text]⟩
    · intro given hnew
      exact ⟨Draft.contentField, .text p.content, rfl, isSome_pick_of_not_mem hnew,
        denotes_write _, by simp [Draft.contentField, drafted, Scalar.string_text]⟩

theorem finish_drafted (p : Post) {given : List String} (h : ∀ m ∈ p.members, m.1 ∈ given) :
    layout.finish (p.drafted given) = .ok p := by
  simp only [members, List.forall_mem_cons] at h
  obtain ⟨hid, hauthor, hcontent, -⟩ := h
  simp only [layout, drafted, pick_of_mem hid, pick_of_mem hauthor, pick_of_mem hcontent]
  rfl

theorem ofJson_of_perm (p : Post) {ms : List Member} (h : ms.Perm p.members) :
    ofJson (String.ofList (Object.line ms)) = .ok p :=
  p.tracks.document_perm h (List.Subset.refl _) (by simp [members]) fun _ => p.finish_drafted

end Post

namespace NewPost

def drafted (n : NewPost) (given : List String) : Draft :=
  ⟨pick given "author" n.author, pick given "content" n.content⟩

theorem tracks (n : NewPost) : layout.Tracks n.members n.drafted where
  blank := rfl
  takes := by
    simp only [members, List.forall_mem_cons]
    refine ⟨?_, ?_, List.forall_mem_nil _⟩
    · intro given hnew
      exact ⟨Draft.authorField, .text n.author.text, rfl, isSome_pick_of_not_mem hnew,
        denotes_write _, by simp [Draft.authorField, drafted, Id.ofHead_text]⟩
    · intro given hnew
      exact ⟨Draft.contentField, .text n.content, rfl, isSome_pick_of_not_mem hnew,
        denotes_write _, by simp [Draft.contentField, drafted, Scalar.string_text]⟩

theorem finish_drafted (n : NewPost) {given : List String} (h : ∀ m ∈ n.members, m.1 ∈ given) :
    layout.finish (n.drafted given) = .ok n := by
  simp only [members, List.forall_mem_cons] at h
  obtain ⟨hauthor, hcontent, -⟩ := h
  simp only [layout, drafted, pick_of_mem hauthor, pick_of_mem hcontent]
  rfl

theorem ofJson_of_perm (n : NewPost) {ms : List Member} (h : ms.Perm n.members) :
    ofJson (String.ofList (Object.line ms)) = .ok n :=
  n.tracks.document_perm h (List.Subset.refl _) (by simp [members]) fun _ => n.finish_drafted

end NewPost

/-- Users, posts and what becomes one are read back from what is written for them, with any handle
and any content, and also when their fields come in another order. -/
theorem users_and_posts_read_back :
    (∀ u : User, User.ofJson (String.ofList u.toJson) = .ok u ∧
      ∀ ms, ms.Perm u.members → User.ofJson (String.ofList (Object.line ms)) = .ok u) ∧
    (∀ n : NewUser, NewUser.ofJson (String.ofList n.toJson) = .ok n ∧
      ∀ ms, ms.Perm n.members → NewUser.ofJson (String.ofList (Object.line ms)) = .ok n) ∧
    (∀ p : Post, Post.ofJson (String.ofList p.toJson) = .ok p ∧
      ∀ ms, ms.Perm p.members → Post.ofJson (String.ofList (Object.line ms)) = .ok p) ∧
    ∀ n : NewPost, NewPost.ofJson (String.ofList n.toJson) = .ok n ∧
      ∀ ms, ms.Perm n.members → NewPost.ofJson (String.ofList (Object.line ms)) = .ok n :=
  ⟨fun u => ⟨u.ofJson_of_perm (.refl _), fun _ => u.ofJson_of_perm⟩,
    fun n => ⟨n.ofJson_of_perm (.refl _), fun _ => n.ofJson_of_perm⟩,
    fun p => ⟨p.ofJson_of_perm (.refl _), fun _ => p.ofJson_of_perm⟩,
    fun n => ⟨n.ofJson_of_perm (.refl _), fun _ => n.ofJson_of_perm⟩⟩

/-- A handle with a quote and a control character, a post with an escape, a line separator and a
character beyond 16 bits, and an empty post, with their fields from last to first. -/
theorem users_and_posts_read_back_reversed :
    let u : User := ⟨⟨⟨0xFFFFFFFFFFFFFFFF⟩⟩, ⟨"a\"\x01", by decide⟩⟩
    let p : Post := ⟨⟨⟨0⟩⟩, u.id, "\\n\u2028\n😀"⟩
    let n : NewPost := ⟨u.id, ""⟩
    (u.members.reverse.Perm u.members ∧
        User.ofJson (String.ofList (Object.line u.members.reverse)) = .ok u) ∧
      NewUser.ofJson (String.ofList (NewUser.toJson ⟨u.handle⟩)) = .ok ⟨u.handle⟩ ∧
      (p.members.reverse.Perm p.members ∧
        Post.ofJson (String.ofList (Object.line p.members.reverse)) = .ok p) ∧
      n.members.reverse.Perm n.members ∧
        NewPost.ofJson (String.ofList (Object.line n.members.reverse)) = .ok n := by
  intro u p n
  obtain ⟨huser, hnewUser, hpost, hnewPost⟩ := users_and_posts_read_back
  have hu : u.members.reverse.Perm u.members := List.reverse_perm _
  have hp : p.members.reverse.Perm p.members := List.reverse_perm _
  have hn : n.members.reverse.Perm n.members := List.reverse_perm _
  exact ⟨⟨hu, (huser u).2 _ hu⟩, (hnewUser ⟨u.handle⟩).2 _ (.refl _), ⟨hp, (hpost p).2 _ hp⟩, hn,
    (hnewPost n).2 _ hn⟩

end Snowflake
