import Credentials.Proofs.Document.Member
import Credentials.Proofs.Permission

/-!
# Permissions in documents

`Grants` says what the members of an object have to be for it to describe a permission, and
`Permission.Refusal` how every other entry is refused: the actor is looked at before the operations,
and these one after the other. A request lists its permissions in a member that may be left out
(`ListsPermissions`); the first entry that is refused decides what is wrong with the list
(`PermissionsRefusal`).
-/

namespace Credentials

open Json (IsText IsList)

/-! ## Operations -/

/-- How an entry of a list of operations is refused. -/
inductive Operation.Refusal (j : Json) : Error → Prop
  | notText (h : ∀ s, j ≠ .string s) : Refusal j (.malformed .operationNotString)
  | unknown {s : String} (h : j = .string s) (hnone : ∀ o : Operation, s ≠ o.text) :
      Refusal j (.validation (.invalidPermission s .unknownOperation))

/-- An operation is read from its word. -/
theorem Operation.ofJson_eq_ok_iff {j : Json} {o : Operation} :
    Operation.ofJson j = .ok o ↔ j = .string o.text := by
  unfold Operation.ofJson
  constructor
  · intro h
    split at h
    · rename_i s hs
      rw [Operation.ofString_eq_ok_iff] at h
      rw [Json.string?_eq_some_iff.1 hs, h]
    · cases h
  · rintro rfl
    simp

/-- An operation is refused for being no text, or no word for one. -/
theorem Operation.ofJson_eq_error_iff {j : Json} {e : Error} :
    Operation.ofJson j = .error e ↔ Operation.Refusal j e := by
  unfold Operation.ofJson
  constructor
  · intro h
    split at h
    · rename_i s hs
      obtain ⟨hnone, rfl⟩ := Operation.ofString_eq_error_iff.1 h
      exact .unknown (Json.string?_eq_some_iff.1 hs) hnone
    · rename_i hs
      cases h
      refine .notText fun s hj => ?_
      rw [Json.string?_eq_some_iff.2 hj] at hs
      cases hs
  · intro h
    cases h with
    | notText hnone =>
      split
      · rename_i s hs
        exact absurd (Json.string?_eq_some_iff.1 hs) (hnone s)
      · rfl
    | unknown hj hnone =>
      subst hj
      rw [Json.string?_string]
      exact Operation.ofString_eq_error_iff.2 ⟨hnone, rfl⟩

theorem Operation.mapM_ofJson_eq_ok_iff {items : List Json} {os : List Operation} :
    items.mapM Operation.ofJson = .ok os ↔ items = os.map fun o => .string o.text := by
  rw [mapM_eq_ok_iff, ← List.forall₂_eq_eq_eq, List.forall₂_map_right_iff]
  simp only [Operation.ofJson_eq_ok_iff]

/-- Operations are refused for the first that is none. -/
theorem Operation.mapM_ofJson_eq_error_iff {items : List Json} {e : Error} :
    items.mapM Operation.ofJson = .error e ↔
      ∃ before x after, items = before ++ x :: after ∧
        (∀ y ∈ before, ∃ op : Operation, y = .string op.text) ∧ Operation.Refusal x e := by
  simp only [mapM_eq_error_iff, Operation.ofJson_eq_ok_iff, Operation.ofJson_eq_error_iff]

/-! ## Permissions -/

/-- The member `actor` is the text of the actor, who has an id. -/
def NamesActor (o : Json.Object) (a : Actor) : Prop :=
  o.get? "actor" = some (.string a.text) ∧ a.id ≠ ""

/-- The members of the object describe the permission; an operation that is repeated counts where it
stands first. -/
structure Grants (o : Json.Object) (p : Permission) : Prop where
  actor : NamesActor o p.actor
  operations : ∃ os : List Operation,
    o.get? "operations" = some (.array (os.map fun o => .string o.text)) ∧
      p.operations = os.eraseDups

/-- The document describes the permission. -/
def IsPermission (j : Json) (p : Permission) : Prop := ∃ o, j = .object o ∧ Grants o p

/-- How the members of an object are refused as a permission. -/
inductive Grants.Refusal (o : Json.Object) : Error → Prop
  | actorNotText (h : o.Misfit "actor" IsText) : Refusal o (.malformed (.notString "actor"))
  | actorMissing (h : o.Lacks "actor") : Refusal o (.malformed (.missing "actor"))
  | actor {text : String} {f : PermissionFault} (h : o.get? "actor" = some (.string text))
      (hf : Actor.IsFaulty text f) : Refusal o (Actor.fault text f)
  | notArray {a : Actor} (ha : NamesActor o a)
      (h : ∀ items, o.get? "operations" ≠ some (.array items)) :
      Refusal o (.malformed (.notArray "operations"))
  | operation {a : Actor} {before after : List Json} {x : Json} {e : Error} (ha : NamesActor o a)
      (h : o.get? "operations" = some (.array (before ++ x :: after)))
      (hbefore : ∀ y ∈ before, ∃ op : Operation, y = .string op.text)
      (hx : Operation.Refusal x e) : Refusal o e

/-- How a document is refused as a permission. -/
inductive Permission.Refusal (j : Json) : Error → Prop
  | notObject (h : ∀ o, j ≠ .object o) : Refusal j (.malformed (.notObject .permission))
  | members {o : Json.Object} {e : Error} (h : j = .object o) (he : Grants.Refusal o e) :
      Refusal j e

/-- A permission is read as the grammar says. -/
theorem Permission.ofJson_eq_ok_iff {j : Json} {p : Permission} :
    Permission.ofJson j = .ok p ↔ IsPermission j p := by
  unfold Permission.ofJson
  simp only [bind_eq_ok_iff, Json.asObject_eq_ok_iff, Json.Object.requiredString_eq_ok_iff,
    Actor.ofString_eq_ok_iff, Json.Object.requiredArray_eq_ok_iff,
    Operation.mapM_ofJson_eq_ok_iff]
  constructor
  · rintro ⟨o, rfl, text, hactor, a, ⟨rfl, hid⟩, items, hitems, os, rfl, h⟩
    cases h
    refine ⟨o, rfl, ⟨?_, ?_⟩, os, hitems, Permission.operations_allowAll_ofActor a os⟩
    · rwa [Permission.actor_allowAll]
    · rwa [Permission.actor_allowAll]
  · rintro ⟨o, rfl, ⟨hactor, hid⟩, os, hitems, hos⟩
    refine ⟨o, rfl, _, hactor, _, ⟨rfl, hid⟩, _, hitems, os, rfl, congrArg Except.ok ?_⟩
    apply Permission.ext
    · exact Permission.actor_allowAll _ _
    · rw [Permission.operations_allowAll_ofActor, hos]

/-- The text of an actor that is read names it. -/
theorem NamesActor.requiredString {o : Json.Object} {a : Actor} (h : NamesActor o a) :
    o.requiredString "actor" = .ok a.text ∧ Actor.ofString a.text = .ok a :=
  ⟨Json.Object.requiredString_eq_ok_iff.2 h.1, Actor.ofString_eq_ok_iff.2 ⟨rfl, h.2⟩⟩

/-- A permission that is refused is at fault in one of the ways that are told apart. -/
theorem Permission.refusal_of_error {j : Json} {e : Error} (h : Permission.ofJson j = .error e) :
    Permission.Refusal j e := by
  -- Stage by stage: what was accepted before a refusal is part of it.
  rcases bind_eq_error_iff.1 h with hobject | ⟨o, hobject, hmembers⟩
  · obtain ⟨hnone, rfl⟩ := Json.asObject_eq_error_iff.1 hobject
    exact .notObject hnone
  refine .members (Json.asObject_eq_ok_iff.1 hobject) ?_
  rcases bind_eq_error_iff.1 hmembers with htext | ⟨text, htext, hbehind⟩
  · rcases Json.Object.requiredString_eq_error_iff.1 htext with ⟨hmisfit, rfl⟩ | ⟨hlacks, rfl⟩
    · exact .actorNotText hmisfit
    · exact .actorMissing hlacks
  rw [Json.Object.requiredString_eq_ok_iff] at htext
  rcases bind_eq_error_iff.1 hbehind with hactor | ⟨a, hactor, hgranted⟩
  · obtain ⟨f, hf, rfl⟩ := Actor.ofString_eq_error_iff.1 hactor
    exact .actor htext hf
  obtain ⟨rfl, hid⟩ := Actor.ofString_eq_ok_iff.1 hactor
  have ha : NamesActor o a := ⟨htext, hid⟩
  rcases bind_eq_error_iff.1 hgranted with hitems | ⟨items, hitems, hread⟩
  · obtain ⟨hnone, rfl⟩ := Json.Object.requiredArray_eq_error_iff.1 hitems
    exact .notArray ha hnone
  rw [Json.Object.requiredArray_eq_ok_iff] at hitems
  rcases bind_eq_error_iff.1 hread with hread | ⟨os, -, hread⟩
  · obtain ⟨before, x, after, rfl, hbefore, hx⟩ := Operation.mapM_ofJson_eq_error_iff.1 hread
    exact .operation ha hitems hbefore hx
  · cases hread

/-- A permission that is at fault is refused with the error that says how. -/
theorem Permission.Refusal.ofJson_eq {j : Json} {e : Error} (h : Permission.Refusal j e) :
    Permission.ofJson j = .error e := by
  cases h with
  | notObject hnone => exact bind_eq_error_iff.2 (.inl (Json.asObject_eq_error_iff.2 ⟨hnone, rfl⟩))
  | @members o _ hj he =>
    subst hj
    refine bind_eq_error_iff.2 (.inr ⟨o, Json.asObject_eq_ok_iff.2 rfl, ?_⟩)
    cases he with
    | actorNotText hmisfit =>
      apply bind_eq_error_iff.2
      exact .inl (Json.Object.requiredString_eq_error_iff.2 (.inl ⟨hmisfit, rfl⟩))
    | actorMissing hlacks =>
      apply bind_eq_error_iff.2
      exact .inl (Json.Object.requiredString_eq_error_iff.2 (.inr ⟨hlacks, rfl⟩))
    | actor htext hf =>
      refine bind_eq_error_iff.2 (.inr ⟨_, Json.Object.requiredString_eq_ok_iff.2 htext, ?_⟩)
      exact bind_eq_error_iff.2 (.inl hf.ofString_eq)
    | notArray ha hnone =>
      obtain ⟨htext, hactor⟩ := ha.requiredString
      refine bind_eq_error_iff.2 (.inr ⟨_, htext, bind_eq_error_iff.2 (.inr ⟨_, hactor, ?_⟩)⟩)
      exact bind_eq_error_iff.2 (.inl (Json.Object.requiredArray_eq_error_iff.2 ⟨hnone, rfl⟩))
    | operation ha hitems hbefore hx =>
      obtain ⟨htext, hactor⟩ := ha.requiredString
      refine bind_eq_error_iff.2 (.inr ⟨_, htext, bind_eq_error_iff.2 (.inr ⟨_, hactor, ?_⟩)⟩)
      refine bind_eq_error_iff.2 (.inr ⟨_, Json.Object.requiredArray_eq_ok_iff.2 hitems, ?_⟩)
      apply bind_eq_error_iff.2
      exact .inl (Operation.mapM_ofJson_eq_error_iff.2 ⟨_, _, _, rfl, hbefore, hx⟩)

theorem Permission.ofJson_eq_error_iff {j : Json} {e : Error} :
    Permission.ofJson j = .error e ↔ Permission.Refusal j e :=
  ⟨Permission.refusal_of_error, Permission.Refusal.ofJson_eq⟩

/-- Permissions are refused for the first that is none. -/
theorem Permission.mapM_ofJson_eq_error_iff {items : List Json} {e : Error} :
    items.mapM Permission.ofJson = .error e ↔
      ∃ before x after, items = before ++ x :: after ∧ (∀ y ∈ before, ∃ p, IsPermission y p) ∧
        Permission.Refusal x e := by
  simp only [mapM_eq_error_iff, Permission.ofJson_eq_ok_iff, Permission.ofJson_eq_error_iff]

/-! ## Lists -/

/-- The object lists the permissions; when there are none it need not. -/
def ListsPermissions (o : Json.Object) (ps : List Permission) : Prop :=
  ∃ items, o.Optional "additional_permissions" IsList items ∧
    List.Forall₂ IsPermission (items.getD []) ps

/-- How the permissions of an object are refused. -/
inductive PermissionsRefusal (o : Json.Object) : Error → Prop
  | notArray (h : o.Misfit "additional_permissions" IsList) :
      PermissionsRefusal o (.malformed (.notArray "additional_permissions"))
  | entry {before after : List Json} {x : Json} {e : Error}
      (h : o.get? "additional_permissions" = some (.array (before ++ x :: after)))
      (hbefore : ∀ y ∈ before, ∃ p, IsPermission y p) (hx : Permission.Refusal x e) :
      PermissionsRefusal o e

/-- Reads the permissions that an object lists. -/
def readPermissions (o : Json.Object) : Except Error (List Permission) := do
  (← o.optionalArray "additional_permissions").getD [] |>.mapM Permission.ofJson

theorem Draft.ofJson_object (o : Json.Object) :
    Draft.ofJson (.object o) = (do
      let kind ← Kind.ofObject o none
      let name ← Name.ofObject o
      let value ← Value.ofObject o kind
      let overwrite ← o.optionalBool "overwrite"
      let permissions ← readPermissions o
      return ⟨some name, overwrite.getD false, some value, permissions⟩) := by
  unfold Draft.ofJson readPermissions
  simp only [Json.asObject_eq_ok_iff.2 rfl, bind_assoc]
  rfl

/-- Permissions are read from the list of them, and a missing list is an empty one. -/
theorem readPermissions_eq_ok_iff {o : Json.Object} {ps : List Permission} :
    readPermissions o = .ok ps ↔ ListsPermissions o ps := by
  unfold readPermissions
  simp only [bind_eq_ok_iff, Json.Object.optionalArray_eq_ok_iff, mapM_eq_ok_iff,
    Permission.ofJson_eq_ok_iff]
  rfl

/-- The permissions of a request are refused for what the list is, or for an item of it. -/
theorem readPermissions_eq_error_iff {o : Json.Object} {e : Error} :
    readPermissions o = .error e ↔ PermissionsRefusal o e := by
  unfold readPermissions
  rw [bind_eq_error_iff]
  constructor
  · rintro (h | ⟨items, hitems, h⟩)
    · obtain ⟨hmisfit, rfl⟩ := Json.Object.optionalArray_eq_error_iff.1 h
      exact .notArray hmisfit
    · obtain ⟨before, x, after, hsplit, hbefore, hx⟩ := Permission.mapM_ofJson_eq_error_iff.1 h
      rw [Json.Object.optionalArray_eq_ok_iff] at hitems
      cases hitems with
      | absent hget => simp at hsplit
      | null hget => simp at hsplit
      | present hget hlist =>
        obtain rfl := hlist
        obtain rfl := hsplit
        exact .entry hget hbefore hx
  · intro h
    cases h with
    | notArray hmisfit =>
      exact .inl (Json.Object.optionalArray_eq_error_iff.2 ⟨hmisfit, rfl⟩)
    | entry hget hbefore hx =>
      refine .inr ⟨_, Json.Object.optionalArray_eq_ok_iff.2 (.present hget rfl), ?_⟩
      exact Permission.mapM_ofJson_eq_error_iff.2 ⟨_, _, _, rfl, hbefore, hx⟩

end Credentials
