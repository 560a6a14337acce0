import Credentials.Proofs.Document.Member
import Credentials.Proofs.Json.Edit
import Credentials.Proofs.Json.Members

/-!
# Places in a value

A path leads into a value step by step: to an item of an array by its place, to a member of an object
by its key. `Json.at?` is what stands at the end of a path. A value is free of nulls when no path leads
to one, which is a matter of its parts (`Json.nullFree_iff`).
-/

namespace Credentials.Json

/-- A step from a value to one of its parts. -/
inductive PathStep
  | item (place : Nat)
  | member (key : String)
deriving DecidableEq

/-- What stands at the end of a path. -/
def at? : Json → List PathStep → Option Json
  | j, [] => some j
  | j, .item place :: path => (j.array?.bind fun items => items[place]?).bind fun k => k.at? path
  | j, .member key :: path => (j.object?.bind fun o => o.get? key).bind fun k => k.at? path

@[simp] theorem at?_nil (j : Json) : j.at? [] = some j := rfl

/-- A path into an array leads on from the item at its place. -/
theorem at?_item_eq_some_iff {j k : Json} {place : Nat} {path : List PathStep} :
    j.at? (.item place :: path) = some k ↔
      ∃ items item, j = array items ∧ items[place]? = some item ∧ item.at? path = some k := by
  simp only [at?, Option.bind_eq_some_iff, array?_eq_some_iff]
  constructor
  · rintro ⟨item, ⟨items, hj, hitem⟩, hpath⟩
    exact ⟨items, item, hj, hitem, hpath⟩
  · rintro ⟨items, item, hj, hitem, hpath⟩
    exact ⟨item, ⟨items, hj, hitem⟩, hpath⟩

/-- A path into an object leads on from the member with its key. -/
theorem at?_member_eq_some_iff {j k : Json} {key : String} {path : List PathStep} :
    j.at? (.member key :: path) = some k ↔
      ∃ o value, j = object o ∧ (key, value) ∈ o.toList ∧ value.at? path = some k := by
  simp only [at?, Option.bind_eq_some_iff, object?_eq_some_iff, Object.get?_eq_some_iff]
  constructor
  · rintro ⟨value, ⟨o, hj, hvalue⟩, hpath⟩
    exact ⟨o, value, hj, hvalue, hpath⟩
  · rintro ⟨o, value, hj, hvalue, hpath⟩
    exact ⟨value, ⟨o, hj, hvalue⟩, hpath⟩

/-- No path leads to a null. -/
def NullFree (j : Json) : Prop := ∀ path, j.at? path ≠ some null

/-- No null stands in a value exactly if it is none and none stands in its parts. -/
theorem nullFree_iff {j : Json} :
    j.NullFree ↔ j.isNull = false ∧ (∀ items, j = array items → ∀ k ∈ items, k.NullFree) ∧
      ∀ o, j = object o → ∀ m ∈ o.toList, m.2.NullFree := by
  constructor
  · intro h
    refine ⟨?_, ?_, ?_⟩
    · rw [Bool.eq_false_iff, Ne, isNull_iff]
      rintro rfl
      exact h [] rfl
    · intro items hj k hk path hpath
      obtain ⟨place, hplace⟩ := List.mem_iff_getElem?.1 hk
      exact h (.item place :: path) (at?_item_eq_some_iff.2 ⟨items, k, hj, hplace, hpath⟩)
    · intro o hj m hm path hpath
      exact h (.member m.1 :: path) (at?_member_eq_some_iff.2 ⟨o, m.2, hj, hm, hpath⟩)
  · rintro ⟨hnull, hitems, hmembers⟩ path hpath
    cases path with
    | nil =>
      rw [isNull_iff.2 (Option.some.inj hpath)] at hnull
      cases hnull
    | cons step path =>
      cases step with
      | item place =>
        obtain ⟨items, k, hj, hk, hpath⟩ := at?_item_eq_some_iff.1 hpath
        exact hitems items hj k (List.mem_of_getElem? hk) path hpath
      | member key =>
        obtain ⟨o, k, hj, hk, hpath⟩ := at?_member_eq_some_iff.1 hpath
        exact hmembers o hj (key, k) hk path hpath

theorem nullFree_string (s : String) : (string s).NullFree :=
  nullFree_iff.2 ⟨by simp [isNull], by simp [← array?_eq_some_iff, array?],
    by simp [← object?_eq_some_iff, object?]⟩

theorem nullFree_bool (b : Bool) : (bool b).NullFree :=
  nullFree_iff.2 ⟨by simp [isNull], by simp [← array?_eq_some_iff, array?],
    by simp [← object?_eq_some_iff, object?]⟩

theorem nullFree_array {items : List Json} (h : ∀ j ∈ items, j.NullFree) :
    (array items).NullFree := by
  refine nullFree_iff.2 ⟨by simp [isNull], ?_, by simp [← object?_eq_some_iff, object?]⟩
  intro items' heq
  obtain rfl : items = items' := by simpa using array?_eq_some_iff.2 heq
  exact h

theorem nullFree_ofFields {fields : List (String × Option Json)} (h : (fields.map Prod.fst).Nodup)
    (hfields : ∀ f ∈ fields, ∀ j ∈ f.2, j.NullFree) : (ofFields fields).NullFree := by
  refine nullFree_iff.2 ⟨by simp [ofFields, isNull], ?_, ?_⟩
  · simp [ofFields, ← array?_eq_some_iff, array?]
  · intro o heq
    rw [← object_injective heq]
    exact (forall_mem_ofFields_iff h).2 hfields

end Credentials.Json
