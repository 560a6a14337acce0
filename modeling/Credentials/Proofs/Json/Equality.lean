import Credentials.Proofs.Document.Member
import Credentials.Proofs.Json.Edit
import Mathlib.Data.List.Forall2
import Mathlib.Data.List.Perm.Subperm

/-!
# Equality of JSON values

Two objects are equal when every key leads to equal values or to none in either
(`object_beq_iff`), so the order of members plays no part. Two objects written from the same fields
are then equal exactly when the fields are, one by one (`ofFields_beq_iff`).
-/

namespace Credentials.Json

/-- The values are equal, or neither is there. -/
abbrev SameOption : Option Json → Option Json → Prop := Option.Rel fun a b => (a == b) = true

/-! ## Strings, booleans and arrays -/

@[simp] theorem string_beq_iff {s t : String} : (string s == string t) = true ↔ s = t := by
  change (s == t) = true ↔ s = t
  exact beq_iff_eq

@[simp] theorem bool_beq_iff {a b : Bool} : (bool a == bool b) = true ↔ a = b := by
  change (a == b) = true ↔ a = b
  exact beq_iff_eq

/-- Arrays are equal item by item. -/
theorem array_beq_iff {xs ys : List Json} :
    (array xs == array ys) = true ↔ List.Forall₂ (fun a b => (a == b) = true) xs ys := by
  change Tree.sameAll (xs.map Json.tree) (ys.map Json.tree) = true ↔ _
  induction xs generalizing ys with
  | nil => cases ys <;> simp [Tree.sameAll]
  | cons x xs ih =>
    cases ys with
    | nil => simp [Tree.sameAll]
    | cons y ys =>
      rw [List.map_cons, List.map_cons, Tree.sameAll, Bool.and_eq_true, ih, List.forall₂_cons]
      rfl

/-- Arrays written from the items of lists are equal if equal items are written alike and others
are not. -/
theorem array_map_beq_iff {α : Type} {f : α → Json} (hf : ∀ a b, (f a == f b) = true ↔ a = b)
    {xs ys : List α} : (array (xs.map f) == array (ys.map f)) = true ↔ xs = ys := by
  simp only [array_beq_iff, List.forall₂_map_left_iff, List.forall₂_map_right_iff, hf,
    List.forall₂_eq_eq_eq]

/-! ## Objects -/

theorem Object.lookup_trees (o : Object) (key : String) :
    o.trees.lookup key = (o.get? key).map Json.tree := by
  rw [trees, get?]
  induction o.toList with
  | nil => rfl
  | cons m ms ih =>
    rw [List.map_cons, List.lookup_cons, List.lookup_cons, ih]
    cases key == m.1 <;> rfl

theorem sameMembers_iff {as bs : List (String × Tree)} :
    Tree.sameMembers as bs = true ↔ ∀ m ∈ as, ∃ t, bs.lookup m.1 = some t ∧ m.2.same t = true := by
  induction as with
  | nil => simp [Tree.sameMembers]
  | cons m as ih =>
    obtain ⟨key, t⟩ := m
    rw [Tree.sameMembers, Bool.and_eq_true, ih, List.forall_mem_cons]
    refine and_congr_left fun _ => ?_
    cases bs.lookup key <;> simp

/-- Every member of the one object has an equal one in the other. -/
theorem Object.sameMembers_trees_iff {o p : Object} :
    Tree.sameMembers o.trees p.trees = true ↔
      ∀ m ∈ o.toList, ∃ j, p.get? m.1 = some j ∧ (m.2 == j) = true := by
  rw [sameMembers_iff, trees, List.forall_mem_map]
  refine forall₂_congr fun m _ => ?_
  rw [lookup_trees]
  constructor
  · rintro ⟨t, ht, hsame⟩
    obtain ⟨j, hj, rfl⟩ := Option.map_eq_some_iff.1 ht
    exact ⟨j, hj, hsame⟩
  · rintro ⟨j, hj, hsame⟩
    exact ⟨j.tree, by rw [hj]; rfl, hsame⟩

theorem Object.mem_keys_iff {o : Object} {key : String} :
    key ∈ o.toList.map Prod.fst ↔ ∃ j, o.get? key = some j := by
  simp [get?_eq_some_iff]

/-- Objects are equal when they lead from each key to equal values. -/
theorem object_beq_iff {o p : Object} :
    (object o == object p) = true ↔ ∀ key, SameOption (o.get? key) (p.get? key) := by
  have hsame : (object o == object p) = true ↔
      o.toList.length = p.toList.length ∧ Tree.sameMembers o.trees p.trees = true := by
    change (o.trees.length == p.trees.length && Tree.sameMembers o.trees p.trees) = true ↔ _
    simp [Object.trees]
  rw [hsame, Object.sameMembers_trees_iff]
  constructor
  · rintro ⟨hlength, hmembers⟩ key
    cases hkey : o.get? key with
    | some j =>
      obtain ⟨k, hk, hjk⟩ := hmembers (key, j) (Object.get?_eq_some_iff.1 hkey)
      rw [hk]
      exact .some hjk
    | none =>
      -- The keys of the one are among those of the other and as many, so they are the same.
      have hsubset : o.toList.map Prod.fst ⊆ p.toList.map Prod.fst := by
        intro k hk
        obtain ⟨j, hj⟩ := Object.mem_keys_iff.1 hk
        obtain ⟨j', hj', -⟩ := hmembers (k, j) (Object.get?_eq_some_iff.1 hj)
        exact Object.mem_keys_iff.2 ⟨j', hj'⟩
      have hkeys := (o.nodup.subperm hsubset).perm_of_length_le (by simp [hlength])
      have hnone : p.get? key = none := by
        apply Option.eq_none_iff_forall_ne_some.2
        intro j hj
        obtain ⟨i, hi⟩ := Object.mem_keys_iff.1 (hkeys.mem_iff.2 (Object.mem_keys_iff.2 ⟨j, hj⟩))
        rw [hkey] at hi
        cases hi
      rw [hnone]
      exact .none
  · intro hall
    have hkeys (key : String) : key ∈ o.toList.map Prod.fst ↔ key ∈ p.toList.map Prod.fst := by
      have hkey := hall key
      rw [Object.mem_keys_iff, Object.mem_keys_iff]
      cases ho : o.get? key <;> cases hp : p.get? key <;> simp [ho, hp] at hkey ⊢
    have hperm := (List.perm_ext_iff_of_nodup o.nodup p.nodup).2 hkeys
    refine ⟨by simpa using hperm.length_eq, fun m hm => ?_⟩
    have hkey := hall m.1
    rw [Object.get?_eq_some_iff.2 hm] at hkey
    cases hp : p.get? m.1 with
    | none => simp [hp] at hkey
    | some j => exact ⟨j, rfl, by simpa [hp] using hkey⟩

/-! ## Written objects -/

/-- Members of the same keys agree at every key exactly if they agree in order. -/
theorem sameOption_lookup_iff {fields others : List (String × Option Json)}
    (hkeys : fields.map Prod.fst = others.map Prod.fst) (h : (fields.map Prod.fst).Nodup) :
    (∀ key, SameOption (fields.lookup key).join (others.lookup key).join) ↔
      List.Forall₂ (fun f g => SameOption f.2 g.2) fields others := by
  induction fields generalizing others with
  | nil =>
    obtain rfl := List.map_eq_nil_iff.1 hkeys.symm
    simp
  | cons field fields ih =>
    obtain ⟨key, value⟩ := field
    obtain ⟨⟨key', value'⟩, others, rfl, hsame, hrest⟩ := List.map_eq_cons_iff.1 hkeys.symm
    obtain rfl : key' = key := hsame
    obtain ⟨hkey, hnodup⟩ := List.nodup_cons.1 h
    have habsent {l : List (String × Option Json)} (hl : key' ∉ l.map Prod.fst) :
        l.lookup key' = none := by
      rw [List.lookup_eq_none_iff]
      intro p hp
      have hne : key' ≠ p.1 := fun heq => hl (heq ▸ List.mem_map_of_mem hp)
      simpa using hne
    rw [List.forall₂_cons, ← ih hrest.symm hnodup]
    constructor
    · intro hall
      refine ⟨by simpa using hall key', fun k => ?_⟩
      by_cases hk : k = key'
      · subst hk
        rw [habsent hkey, habsent (hrest ▸ hkey)]
        exact .none
      · simpa [List.lookup_cons, beq_false_of_ne hk] using hall k
    · rintro ⟨hfirst, hall⟩ k
      by_cases hk : k = key'
      · subst hk
        simpa using hfirst
      · simpa [List.lookup_cons, beq_false_of_ne hk] using hall k

/-- Objects written from the same fields are equal when field by field the same is set. -/
theorem ofFields_beq_iff {fields others : List (String × Option Json)}
    (hkeys : fields.map Prod.fst = others.map Prod.fst) (h : (fields.map Prod.fst).Nodup) :
    (ofFields fields == ofFields others) = true ↔
      List.Forall₂ (fun f g => SameOption f.2 g.2) fields others := by
  rw [ofFields, ofFields, object_beq_iff, ← sameOption_lookup_iff hkeys h]
  simp only [Object.get?_ofFields h, Object.get?_ofFields (hkeys ▸ h)]

/-- An optional field is written alike only for what is equal. -/
theorem sameOption_map_iff {α : Type} {f : α → Json} (hf : ∀ a b, (f a == f b) = true ↔ a = b)
    {a b : Option α} : SameOption (a.map f) (b.map f) ↔ a = b := by
  cases a <;> cases b <;> simp [hf]

theorem sameOption_string_iff {s t : Option String} :
    SameOption (s.map string) (t.map string) ↔ s = t :=
  sameOption_map_iff fun _ _ => string_beq_iff

theorem sameOption_bool_iff {s t : Option Bool} : SameOption (s.map bool) (t.map bool) ↔ s = t :=
  sameOption_map_iff fun _ _ => bool_beq_iff

end Credentials.Json
