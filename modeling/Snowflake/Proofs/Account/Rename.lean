import Snowflake.Proofs.Account.Handle

/-!
Users under renaming. A user to whom one text after another is proposed as a handle stays the same
user, and has the last of the handles among them.
-/

namespace Snowflake

open Json

namespace User

/-- A text is proposed as a handle. The answer is the handle until now, if the text is taken. -/
def propose (u : User) (text : String) : Except InvalidHandle Handle × User :=
  match Handle.read text with
  | .error e => (.error e, u)
  | .ok handle =>
      let (old, u') := u.rename handle
      (.ok old, u')

/-- The answers to texts proposed one after the other, and the user after them. -/
def run (u : User) : List String → List (Except InvalidHandle Handle) × User
  | [] => ([], u)
  | text :: texts =>
      let (answer, u') := u.propose text
      let (answers, u'') := u'.run texts
      (answer :: answers, u'')

/-- The last text among `texts` that is a handle. -/
def lastHandle? (texts : List String) : Option String :=
  (texts.filter fun text => (Handle.read text).isOk).getLast?

section Step

variable {u : User} {text : String}

theorem propose_of_ok {handle : Handle} (h : Handle.read text = .ok handle) :
    u.propose text = (.ok u.handle, { u with handle }) := by
  rw [propose, h]
  rfl

theorem propose_of_error {e : InvalidHandle} (h : Handle.read text = .error e) :
    u.propose text = (.error e, u) := by
  rw [propose, h]

theorem id_propose (u : User) (text : String) : (u.propose text).2.id = u.id := by
  rcases h : Handle.read text with e | handle
  · rw [propose_of_error h]
  · rw [propose_of_ok h]

theorem text_propose (u : User) (text : String) :
    (u.propose text).2.handle.text = (lastHandle? [text]).getD u.handle.text := by
  rcases h : Handle.read text with e | handle
  · rw [propose_of_error h]
    simp [lastHandle?, h, Except.isOk, Except.toBool]
  · rw [propose_of_ok h]
    simp [lastHandle?, h, Except.isOk, Except.toBool, Handle.read_eq_ok_iff.mp h]

end Step

section Run

variable (u : User)

theorem run_append (before after : List String) :
    u.run (before ++ after) =
      ((u.run before).1 ++ ((u.run before).2.run after).1, ((u.run before).2.run after).2) := by
  induction before generalizing u with
  | nil => rfl
  | cons text before ih => simp only [List.cons_append, run, ih]

theorem length_run (texts : List String) : (u.run texts).1.length = texts.length := by
  induction texts generalizing u with
  | nil => rfl
  | cons text texts ih => simp only [run, List.length_cons, ih]

theorem id_run (texts : List String) : (u.run texts).2.id = u.id := by
  induction texts generalizing u with
  | nil => rfl
  | cons text texts ih => exact (ih _).trans (u.id_propose text)

theorem lastHandle?_append (before after : List String) :
    lastHandle? (before ++ after) = (lastHandle? after).or (lastHandle? before) := by
  rw [lastHandle?, List.filter_append, List.getLast?_append]
  rfl

theorem text_run (texts : List String) :
    (u.run texts).2.handle.text = (lastHandle? texts).getD u.handle.text := by
  induction texts generalizing u with
  | nil => rfl
  | cons text texts ih =>
      rw [← List.singleton_append, lastHandle?_append, Option.getD_or, ← text_propose]
      exact ih (u.propose text).2

/-- What one text of many does, after the texts `before` it. -/
theorem run_concat (before : List String) (text : String) (after : List String) :
    (u.run (before ++ text :: after)).1[before.length]? =
        some ((u.run before).2.propose text).1 ∧
      (u.run (before ++ [text])).2 = ((u.run before).2.propose text).2 := by
  constructor
  · rw [run_append, List.getElem?_append_right (Nat.le_of_eq (u.length_run before)), length_run,
      Nat.sub_self]
    rfl
  · rw [run_append]
    rfl

end Run

end User

/-- Handles are valid whichever way they come, and users keep their identity. A text is a handle
exactly if it breaks no rule, and the first rule it breaks is reported with it; a document is read
as the text that it holds. A user to whom texts are proposed keeps the identifier and has the last
handle among the texts; each renaming answers with the handle just before it, and a text that is no
handle changes nothing. -/
theorem User.valid_through_renaming :
    (∀ s, ((∃ h, Handle.read s = .ok h) ↔ Handle.Valid s) ∧
      (∀ h, Handle.read s = .ok h → h.text = s) ∧
      ∀ e, Handle.read s = .error e ↔ e.input = s ∧ Handle.Breaks s e.fault ∧
        ∀ fault, Handle.rank fault < Handle.rank e.fault → ¬ Handle.Breaks s fault) ∧
    (∀ doc s, IsText doc s →
      (∀ h, Handle.ofJson doc = .ok h ↔ Handle.read s = .ok h) ∧
      ∀ e, Handle.read s = .error e →
        Handle.ofJson doc = .error (.mismatch (.rejected e.message))) ∧
    ∀ (u : User) texts,
      ((u.run texts).2.id = u.id ∧ Handle.Valid (u.run texts).2.handle.text ∧
        (u.run texts).2.handle.text = (lastHandle? texts).getD u.handle.text) ∧
      ∀ before text after, texts = before ++ text :: after →
        let current := (u.run before).2
        (∀ h, Handle.read text = .ok h →
          (u.run texts).1[before.length]? = some (.ok current.handle) ∧
          (u.run (before ++ [text])).2 = { current with handle := h }) ∧
        ∀ e, Handle.read text = .error e →
          (u.run texts).1[before.length]? = some (.error e) ∧
          (u.run (before ++ [text])).2 = current := by
  refine ⟨fun s => ⟨?_, fun h => Handle.read_eq_ok_iff.mp, fun e => Handle.read_eq_error_iff⟩,
    fun doc s hdoc => ⟨fun h => ?_, fun e he => ?_⟩,
    fun u texts => ⟨⟨u.id_run texts, ?_, u.text_run texts⟩, ?_⟩⟩
  · simp only [Handle.read_eq_ok_iff, Handle.exists_text_eq_iff]
  · rw [Handle.ofJson_of_isText hdoc, agreeing_eq_ok_iff, Reader.mapError_eq_ok_iff]
  · rw [Handle.ofJson_of_isText hdoc, he]
    rfl
  · exact Handle.exists_text_eq_iff.mp ⟨_, rfl⟩
  · rintro before text after rfl current
    obtain ⟨hanswer, hafter⟩ := u.run_concat before text after
    constructor
    · intro h hread
      rw [propose_of_ok hread] at hanswer hafter
      exact ⟨hanswer, hafter⟩
    · intro e hread
      rw [propose_of_error hread] at hanswer hafter
      exact ⟨hanswer, hafter⟩

/-- A renaming that fails and one that succeeds. -/
theorem User.valid_through_renaming_old_new :
    let u : User := ⟨⟨⟨1⟩⟩, ⟨"old", by decide⟩⟩
    let new : Handle := ⟨"new", by decide⟩
    let texts := ["two words", "new"]
    (∃ e, Handle.read "two words" = .error e ∧ e.input = "two words" ∧
        Handle.ofJson (String.ofList (Literal.write "two words")) =
          .error (.mismatch (.rejected e.message)) ∧
        (u.run texts).1[0]? = some (.error e) ∧ (u.run ["two words"]).2 = u) ∧
      Handle.read "new" = .ok new ∧ new.text = "new" ∧
        (u.run texts).1[1]? = some (.ok u.handle) ∧ (u.run texts).2 = { u with handle := new } := by
  intro u new texts
  obtain ⟨hread, hjson, hrun⟩ := valid_through_renaming
  obtain ⟨-, hsteps⟩ := hrun u texts
  have hfault : Handle.fault? "two words" = some .blank := by decide
  have herror : Handle.read "two words" = .error ⟨"two words", .blank⟩ :=
    Handle.read_eq_error_iff.mpr ⟨rfl, Handle.fault?_eq_some_iff.mp hfault⟩
  have hnew : Handle.read "new" = .ok new := Handle.read_eq_ok_iff.mpr rfl
  have hrejected := (hsteps [] "two words" ["new"] rfl).2 _ herror
  have hkept : (u.run ["two words"]).2 = u := hrejected.2
  obtain ⟨hold, hlast⟩ := (hsteps ["two words"] "new" [] rfl).1 new hnew
  rw [hkept] at hold hlast
  exact ⟨⟨_, herror, (((hread "two words").2.2 _).mp herror).1,
    (hjson _ _ (isText_write "two words")).2 _ herror, hrejected.1, hkept⟩, hnew,
    (hread "new").2.1 new hnew, hold, hlast⟩

end Snowflake
