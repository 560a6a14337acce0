import Credentials.Json.Fields
import Mathlib.Data.List.Nodup

/-!
# Members in order

An object to which only new keys are added lists its members in the order in which they came
(`toList_insert_of_notMem`, `toList_ofFields`), so how deep a built document nests and whether it
holds a double is read off its fields (`depth_ofFields_le_iff`, `isFloatFree_ofFields_iff`).
-/

namespace Credentials.Json

namespace Object

/-- A new key comes last. -/
theorem insertInto_of_notMem {key : String} {value : Json} {ms : List (String × Json)}
    (h : key ∉ ms.map Prod.fst) : insertInto key value ms = ms ++ [(key, value)] := by
  induction ms with
  | nil => rfl
  | cons m ms ih =>
    obtain ⟨k, v⟩ := m
    rw [List.map_cons, List.mem_cons, not_or] at h
    rw [insertInto, if_neg (Ne.symm h.1), ih h.2]
    rfl

theorem mem_insertInto {key : String} {value : Json} {ms : List (String × Json)}
    {m : String × Json} (h : m ∈ insertInto key value ms) : m.2 = value ∨ m ∈ ms := by
  induction ms with
  | nil =>
    rw [insertInto, List.mem_singleton] at h
    exact .inl (congrArg Prod.snd h)
  | cons n ms ih =>
    obtain ⟨k, v⟩ := n
    rw [insertInto] at h
    split at h
    · rcases List.mem_cons.1 h with rfl | h
      · exact .inl rfl
      · exact .inr (List.mem_cons_of_mem _ h)
    · rcases List.mem_cons.1 h with rfl | h
      · exact .inr List.mem_cons_self
      · exact (ih h).imp_right (List.mem_cons_of_mem _)

/-- A new key is added behind the others. -/
theorem toList_insert_of_notMem {o : Object} {key : String} (h : key ∉ o.toList.map Prod.fst)
    (value : Json) : (o.insert key value).toList = o.toList ++ [(key, value)] :=
  insertInto_of_notMem h

/-- A field that is set, as a member. -/
def memberOf (f : String × Option Json) : Option (String × Json) := f.2.map fun j => (f.1, j)

theorem toList_foldl_insert? {fields : List (String × Option Json)} {o : Object}
    (h : (o.toList.map Prod.fst ++ fields.map Prod.fst).Nodup) :
    (fields.foldl (fun o f => o.insert? f.1 f.2) o).toList =
      o.toList ++ fields.filterMap memberOf := by
  induction fields generalizing o with
  | nil => simp
  | cons field fields ih =>
    obtain ⟨key, value⟩ := field
    rw [List.map_cons] at h
    have hkey : key ∉ o.toList.map Prod.fst := fun hmem =>
      (List.nodup_append.1 h).2.2 key hmem key List.mem_cons_self rfl
    rw [List.foldl_cons]
    cases value with
    | none =>
      have hrest : (o.toList.map Prod.fst ++ fields.map Prod.fst).Nodup :=
        h.sublist (List.Sublist.append_left (List.sublist_cons_self _ _) _)
      rw [insert?, ih hrest]
      rfl
    | some j =>
      have hinsert := toList_insert_of_notMem hkey j
      have hrest : ((o.insert key j).toList.map Prod.fst ++ fields.map Prod.fst).Nodup := by
        rw [hinsert, List.map_append, List.append_assoc]
        exact h
      rw [insert?, ih hrest, hinsert, List.append_assoc]
      rfl

/-- A built object lists the fields that are set, in their order. -/
theorem toList_ofFields {fields : List (String × Option Json)} (h : (fields.map Prod.fst).Nodup) :
    (ofFields fields).toList = fields.filterMap memberOf :=
  toList_foldl_insert? (o := empty) h

end Object

/-! ## Depth -/

namespace Tree

theorem depthAll_le_iff {items : List Tree} {n : Nat} :
    depthAll items ≤ n ↔ ∀ t ∈ items, t.depth ≤ n := by
  induction items with
  | nil => simp [depthAll]
  | cons t ts ih => rw [depthAll, Nat.max_le, ih, List.forall_mem_cons]

theorem depthMembers_le_iff {members : List (String × Tree)} {n : Nat} :
    depthMembers members ≤ n ↔ ∀ m ∈ members, m.2.depth ≤ n := by
  induction members with
  | nil => simp [depthMembers]
  | cons m ms ih =>
    obtain ⟨k, t⟩ := m
    rw [depthMembers, Nat.max_le, ih, List.forall_mem_cons]

theorem anyFloat_eq_false_iff {items : List Tree} :
    anyFloat items = false ↔ ∀ t ∈ items, t.hasFloat = false := by
  induction items with
  | nil => simp [anyFloat]
  | cons t ts ih => rw [anyFloat, Bool.or_eq_false_iff, ih, List.forall_mem_cons]

theorem anyFloatMember_eq_false_iff {members : List (String × Tree)} :
    anyFloatMember members = false ↔ ∀ m ∈ members, m.2.hasFloat = false := by
  induction members with
  | nil => simp [anyFloatMember]
  | cons m ms ih =>
    obtain ⟨k, t⟩ := m
    rw [anyFloatMember, Bool.or_eq_false_iff, ih, List.forall_mem_cons]

end Tree

/-- How many arrays and objects are nested in a value. -/
def depth (j : Json) : Nat := j.tree.depth

/-- No number in the value is a double. -/
def IsFloatFree (j : Json) : Prop := j.tree.hasFloat = false

@[simp] theorem depth_string (s : String) : (string s).depth = 0 := rfl

@[simp] theorem depth_bool (b : Bool) : (bool b).depth = 0 := rfl

theorem isFloatFree_string (s : String) : (string s).IsFloatFree := rfl

theorem isFloatFree_bool (b : Bool) : (bool b).IsFloatFree := rfl

/-- An array nests one deeper than its items. -/
theorem depth_array_le_iff {items : List Json} {n : Nat} :
    (array items).depth ≤ n + 1 ↔ ∀ j ∈ items, j.depth ≤ n := by
  change Tree.depthAll (items.map Json.tree) + 1 ≤ n + 1 ↔ _
  rw [Nat.add_le_add_iff_right, Tree.depthAll_le_iff, List.forall_mem_map]
  rfl

theorem isFloatFree_array_iff {items : List Json} :
    (array items).IsFloatFree ↔ ∀ j ∈ items, j.IsFloatFree := by
  change Tree.anyFloat (items.map Json.tree) = false ↔ _
  rw [Tree.anyFloat_eq_false_iff, List.forall_mem_map]
  rfl

/-- An object nests one deeper than its members. -/
theorem depth_object_le_iff {o : Object} {n : Nat} :
    (object o).depth ≤ n + 1 ↔ ∀ m ∈ o.toList, m.2.depth ≤ n := by
  change Tree.depthMembers o.trees + 1 ≤ n + 1 ↔ _
  rw [Nat.add_le_add_iff_right, Tree.depthMembers_le_iff, Object.trees, List.forall_mem_map]
  rfl

theorem isFloatFree_object_iff {o : Object} :
    (object o).IsFloatFree ↔ ∀ m ∈ o.toList, m.2.IsFloatFree := by
  change Tree.anyFloatMember o.trees = false ↔ _
  rw [Tree.anyFloatMember_eq_false_iff, Object.trees, List.forall_mem_map]
  rfl

section

variable {fields : List (String × Option Json)} (h : (fields.map Prod.fst).Nodup)
include h

theorem forall_mem_ofFields_iff {P : Json → Prop} :
    (∀ m ∈ (Object.ofFields fields).toList, P m.2) ↔ ∀ f ∈ fields, ∀ j ∈ f.2, P j := by
  rw [Object.toList_ofFields h]
  constructor
  · intro hall f hf j hj
    refine hall (f.1, j) (List.mem_filterMap.2 ⟨f, hf, ?_⟩)
    rw [Object.memberOf, hj]
    rfl
  · intro hall m hm
    obtain ⟨f, hf, hmember⟩ := List.mem_filterMap.1 hm
    obtain ⟨j, hj, rfl⟩ := Option.map_eq_some_iff.1 hmember
    exact hall f hf j hj

/-- A built document nests one deeper than the fields that are set. -/
theorem depth_ofFields_le_iff {n : Nat} :
    (ofFields fields).depth ≤ n + 1 ↔ ∀ f ∈ fields, ∀ j ∈ f.2, j.depth ≤ n :=
  depth_object_le_iff.trans (forall_mem_ofFields_iff (P := fun j => j.depth ≤ n) h)

/-- An object of fields is free of floats if the fields that are set are. -/
theorem isFloatFree_ofFields_iff :
    (ofFields fields).IsFloatFree ↔ ∀ f ∈ fields, ∀ j ∈ f.2, j.IsFloatFree :=
  isFloatFree_object_iff.trans (forall_mem_ofFields_iff h)

end

/-! ## Nested arrays -/

/-- A value inside `n` arrays. -/
def nest : Nat → Json → Json
  | 0, j => j
  | n + 1, j => array [nest n j]

theorem depth_nest_le_iff {n m : Nat} {j : Json} (hj : j.depth = 0) :
    (nest n j).depth ≤ m ↔ n ≤ m := by
  induction n generalizing m with
  | zero => simp [nest, hj]
  | succ n ih =>
    cases m with
    | zero => exact iff_of_false (Nat.not_succ_le_zero _) (Nat.not_succ_le_zero _)
    | succ m => rw [nest, depth_array_le_iff, List.forall_mem_singleton, ih, Nat.add_le_add_iff_right]

theorem isFloatFree_nest {n : Nat} {j : Json} (hj : j.IsFloatFree) : (nest n j).IsFloatFree := by
  induction n with
  | zero => exact hj
  | succ n ih => rwa [nest, isFloatFree_array_iff, List.forall_mem_singleton]

/-- An object with `n` arrays inside each other. -/
def Object.nested (n : Nat) : Object := .ofFields [("items", some (nest n null))]

theorem depth_nested_le_iff {n m : Nat} : (object (.nested n)).depth ≤ m + 1 ↔ n ≤ m := by
  rw [Object.nested, ← ofFields, depth_ofFields_le_iff (by simp)]
  simp [depth_nest_le_iff (show null.depth = 0 from rfl)]

theorem isFloatFree_nested (n : Nat) : (object (.nested n)).IsFloatFree := by
  refine (isFloatFree_ofFields_iff (by simp)).2 ?_
  simp [isFloatFree_nest (show null.IsFloatFree from rfl)]

end Credentials.Json
