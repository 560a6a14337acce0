import Credentials.Proofs.Permission

/-!
# Texts of actors

The text of an actor is a word for the role, a colon and the id. The words have no colon in them, so
the first colon of a text is the one behind the role, whatever the id holds, and reading and writing
undo each other (`presents_iff`). Only an empty id is written but not read. Main statement:
`reading_undoes_writing`.
-/

namespace Credentials.Actor

/-- The text says who the actor is. The id may hold anything, colons and words for roles included. -/
inductive Presents : String → Actor → Prop
  | app {id : String} (hid : id ≠ "") : Presents ("mtls-app:" ++ id) ⟨.app, id⟩
  | user {id : String} (hid : id ≠ "") : Presents ("uaa-user:" ++ id) ⟨.user, id⟩
  | client {id : String} (hid : id ≠ "") : Presents ("uaa-client:" ++ id) ⟨.client, id⟩

theorem presents_text {a : Actor} (hid : a.id ≠ "") : Presents a.text a := by
  obtain ⟨role, id⟩ := a
  cases role with
  | app => exact .app hid
  | user => exact .user hid
  | client => exact .client hid

/-- An actor is presented by its text and by no other, and only if it has an identifier. -/
theorem presents_iff {s : String} {a : Actor} : Presents s a ↔ a.text = s ∧ a.id ≠ "" := by
  constructor
  · intro h
    cases h with
    | app hid => exact ⟨rfl, hid⟩
    | user hid => exact ⟨rfl, hid⟩
    | client hid => exact ⟨rfl, hid⟩
  · rintro ⟨rfl, hid⟩
    exact presents_text hid

/-- A text is read as an actor exactly when it is a word for the role, a colon and an id that is not
empty, and it is then the text of the actor. Written and read back an actor is the same, or refused
for the empty id, and in either case its text belongs to no other actor. -/
theorem reading_undoes_writing :
    (∀ s a, ofString s = .ok a ↔ Presents s a) ∧
      (∀ s a, Presents s a ↔ a.text = s ∧ a.id ≠ "") ∧
      (∀ a : Actor, ofString a.text =
        if a.id = "" then .error (.validation (.invalidPermission a.text .emptyId)) else .ok a) ∧
      ∀ a b : Actor, a.text = b.text ↔ a = b := by
  refine ⟨fun s a => ?_, fun s a => presents_iff, ofString_text, fun a b => ?_⟩
  · rw [ofString_eq_ok_iff, presents_iff, eq_comm]
  · constructor
    · exact text_injective
    · rintro rfl
      rfl

example : ofString "mtls-app:uaa-user:x" = .ok ⟨.app, "uaa-user:x"⟩ := rfl

end Credentials.Actor
