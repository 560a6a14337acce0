import Credentials.Json.Fields
import Mathlib.Data.List.Nodup
import Mathlib.Logic.Relation

/-!
# Changing the members of an object

Looking up a key does not depend on the order of the members (`Object.get?_of_perm`). `Object.Edit`
is a change that cannot matter to a reader who knows only certain keys and takes null for absent:
members are put into another order, or one that is null or has a key that is not known comes or
goes. However many such changes are made, what is present under the known keys stays the same
(`Object.Similar.agreeOn`).
-/

namespace Credentials.Json.Object

/-! ## Members in any order -/

theorem get?_eq_some_iff {o : Object} {key : String} {j : Json} :
    o.get? key = some j ↔ (key, j) ∈ o.toList := by
  rw [get?, List.lookup_eq_some_iff]
  constructor
  · rintro ⟨before, after, hsplit, -⟩
    rw [hsplit]
    exact List.mem_append_right _ List.mem_cons_self
  · intro hmem
    obtain ⟨before, after, hsplit⟩ := List.append_of_mem hmem
    refine ⟨before, after, hsplit, fun m hm => ?_⟩
    have hkeys := o.nodup
    rw [hsplit, List.map_append, List.map_cons] at hkeys
    have hne := (List.nodup_append.1 hkeys).2.2 m.1 (List.mem_map_of_mem hm) key List.mem_cons_self
    exact bne_iff_ne.2 (Ne.symm hne)

/-- The order of members does not matter to looking them up. -/
theorem get?_of_perm {o p : Object} (h : o.toList.Perm p.toList) (key : String) :
    o.get? key = p.get? key := by
  apply Option.ext
  intro j
  rw [get?_eq_some_iff, get?_eq_some_iff]
  exact h.mem_iff

/-! ## Leaving a member out -/

/-- The object without the member of a key. -/
def erase (o : Object) (key : String) : Object :=
  ⟨o.toList.filter fun m => m.1 ≠ key, o.nodup.sublist (List.filter_sublist.map Prod.fst)⟩

theorem get?_erase_self (o : Object) (key : String) : (o.erase key).get? key = none := by
  apply Option.eq_none_iff_forall_ne_some.2
  intro j hj
  have hmem := (List.mem_filter.1 (get?_eq_some_iff.1 hj)).2
  simp at hmem

/-- Taking out one member leaves the others. -/
theorem get?_erase_of_ne (o : Object) {key other : String} (hne : other ≠ key) :
    (o.erase key).get? other = o.get? other := by
  apply Option.ext
  intro j
  rw [get?_eq_some_iff, get?_eq_some_iff, erase, List.mem_filter]
  simp [hne]

/-! ## Changes that do not matter -/

/-- One change that cannot matter to a reader who knows the keys in `known`. -/
inductive Edit (known : List String) : Object → Object → Prop
  | reorder {o p : Object} (h : o.toList.Perm p.toList) : Edit known o p
  | add {o : Object} {key : String} {j : Json} (hnew : o.get? key = none)
      (h : key ∉ known ∨ j = .null) : Edit known o (o.insert key j)
  | remove {o : Object} {key : String} {j : Json} (hold : o.get? key = some j)
      (h : key ∉ known ∨ j = .null) : Edit known o (o.erase key)

/-- The objects differ by such changes only. -/
def Similar (known : List String) : Object → Object → Prop := Relation.ReflTransGen (Edit known)

/-- The same is present under the known keys. -/
def AgreeOn (known : List String) (o p : Object) : Prop :=
  ∀ key ∈ known, o.present? key = p.present? key

theorem present?_congr {o p : Object} {key : String} (h : o.get? key = p.get? key) :
    o.present? key = p.present? key := by
  rw [present?, present?, h]

theorem present?_eq_none {o : Object} {key : String}
    (h : o.get? key = none ∨ o.get? key = some null) : o.present? key = none := by
  rcases h with h | h
  · rw [present?, h]
    rfl
  · rw [present?, h]
    rfl

/-- A change that cannot matter leaves the members that are known as they are. -/
theorem Edit.agreeOn {known : List String} {o p : Object} (h : Edit known o p) :
    AgreeOn known o p := by
  intro key hkey
  -- A member that comes or goes matters to its own key only, and there it is null.
  cases h with
  | reorder h => exact present?_congr (get?_of_perm h key)
  | @add new j hnew h =>
    by_cases heq : key = new
    · subst heq
      rcases h with hunknown | rfl
      · exact absurd hkey hunknown
      · rw [present?_eq_none (.inl hnew), present?_eq_none (.inr (get?_insert_self _ _ _))]
    · exact present?_congr (get?_insert_of_ne _ _ heq).symm
  | @remove old j hold h =>
    by_cases heq : key = old
    · subst heq
      rcases h with hunknown | rfl
      · exact absurd hkey hunknown
      · rw [present?_eq_none (.inr hold), present?_eq_none (.inl (get?_erase_self _ _))]
    · exact present?_congr (get?_erase_of_ne _ heq).symm

/-- So do any number of such changes. -/
theorem Similar.agreeOn {known : List String} {o p : Object} (h : Similar known o p) :
    AgreeOn known o p := by
  induction h with
  | refl => exact fun _ _ => rfl
  | tail _ hstep ih => exact fun key hkey => (ih key hkey).trans (hstep.agreeOn key hkey)

end Credentials.Json.Object
