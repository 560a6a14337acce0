import Credentials.Json.Tree

/-!
# JSON values

A `Json` is a tree in which no object repeats a key, and a `Json.Object` is a list of members with
distinct keys. `Json.view` takes a value apart one level deep and `View.toJson` puts it together again;
the two are inverse to each other, so a value is what its view says. Objects are built by `insert`, which
gives a repeated key its new value in the old place.
-/

namespace Credentials

/-- A JSON value: a tree in which no object repeats a key. -/
structure Json where
  /-- The value as syntax. -/
  tree : Json.Tree
  /-- Keys are distinct, at every depth. -/
  distinct : tree.Distinct

namespace Json

instance : BEq Json := ⟨fun a b => a.tree.same b.tree⟩

@[ext] theorem ext {a b : Json} (h : a.tree = b.tree) : a = b := by
  cases a; cases b; cases h; rfl

/-- A JSON object: members in order, with distinct keys. -/
structure Object where
  /-- The members in order. -/
  toList : List (String × Json)
  /-- No key is repeated. -/
  nodup : (toList.map Prod.fst).Nodup

namespace Object

@[ext] theorem ext {a b : Object} (h : a.toList = b.toList) : a = b := by
  cases a; cases b; cases h; rfl

/-- The object without members. -/
def empty : Object := ⟨[], List.nodup_nil⟩

/-- The keys in order. -/
def keys (o : Object) : List String := o.toList.map Prod.fst

/-- The value of a key. -/
def get? (o : Object) (key : String) : Option Json := o.toList.lookup key

/-- Members with the value of `key` set: in its old place, or at the end. -/
def insertInto (key : String) (value : Json) : List (String × Json) → List (String × Json)
  | [] => [(key, value)]
  | (k, v) :: ms => if k = key then (k, value) :: ms else (k, v) :: insertInto key value ms

theorem keys_insertInto (key : String) (value : Json) (ms : List (String × Json)) :
    (insertInto key value ms).map Prod.fst =
      if key ∈ ms.map Prod.fst then ms.map Prod.fst else ms.map Prod.fst ++ [key] := by
  induction ms with
  | nil => rfl
  | cons m ms ih =>
    obtain ⟨k, v⟩ := m
    by_cases h : k = key
    · simp [insertInto, h]
    · have h' : ¬ key = k := fun e => h e.symm
      by_cases hm : key ∈ ms.map Prod.fst
      · simp only [insertInto, h, if_false, List.map_cons, List.mem_cons, hm, or_true, if_true, ih]
      · simp only [insertInto, h, if_false, List.map_cons, List.mem_cons, hm, h', or_false, ih,
          List.cons_append]

theorem nodup_insertInto {key : String} {value : Json} {ms : List (String × Json)}
    (h : (ms.map Prod.fst).Nodup) : ((insertInto key value ms).map Prod.fst).Nodup := by
  rw [keys_insertInto]
  split
  · exact h
  · rename_i hk
    exact List.nodup_append.2 ⟨h, by simp, fun a ha b hb => by
      simp only [List.mem_singleton] at hb
      exact fun e => hk (hb ▸ e ▸ ha)⟩

/-- The object with the value of `key` set: in its old place, or at the end. -/
def insert (o : Object) (key : String) (value : Json) : Object :=
  ⟨insertInto key value o.toList, nodup_insertInto o.nodup⟩

/-- The object with the value of `key` set when there is one. -/
def insert? (o : Object) (key : String) : Option Json → Object
  | some value => o.insert key value
  | none => o

/-- Members in order; a repeated key keeps its first place and takes its last value. -/
def ofList (ms : List (String × Json)) : Object :=
  ms.foldl (fun o m => o.insert m.1 m.2) empty

@[simp] theorem toList_empty : empty.toList = [] := rfl

@[simp] theorem get?_empty (key : String) : empty.get? key = none := rfl

theorem toList_insert (o : Object) (key : String) (value : Json) :
    (o.insert key value).toList = insertInto key value o.toList := rfl

@[simp] theorem get?_insert_self (o : Object) (key : String) (value : Json) :
    (o.insert key value).get? key = some value := by
  simp only [get?, toList_insert]
  induction o.toList with
  | nil => simp [insertInto]
  | cons m ms ih =>
    obtain ⟨k, v⟩ := m
    by_cases h : k = key
    · simp [insertInto, h]
    · have h' : (key == k) = false := by simpa using fun e => h e.symm
      simp only [insertInto, h, if_false, List.lookup_cons, h']
      exact ih

theorem get?_insert_of_ne (o : Object) {key other : String} (value : Json) (hne : other ≠ key) :
    (o.insert key value).get? other = o.get? other := by
  simp only [get?, toList_insert]
  induction o.toList with
  | nil =>
    have h' : (other == key) = false := by simpa using hne
    simp [insertInto, List.lookup_cons, h']
  | cons m ms ih =>
    obtain ⟨k, v⟩ := m
    by_cases h : k = key
    · have h' : (other == k) = false := by simpa [h] using hne
      simp [insertInto, h, List.lookup_cons, h ▸ h']
    · simp only [insertInto, h, if_false, List.lookup_cons]
      split
      · rfl
      · exact ih

end Object

/-- A JSON value taken apart one level deep. -/
inductive View
  | null
  | bool (b : Bool)
  | number (n : Number)
  | string (s : String)
  | array (items : List Json)
  | object (members : Object)

/-- The members of an object as syntax. -/
def Object.trees (o : Object) : List (String × Tree) := o.toList.map fun m => (m.1, m.2.tree)

theorem Object.trees_keys (o : Object) : o.trees.map Prod.fst = o.toList.map Prod.fst := by
  simp [Object.trees, Function.comp_def]

/-- Puts a value together again. -/
def View.toJson : View → Json
  | .null => ⟨.null, trivial⟩
  | .bool b => ⟨.bool b, trivial⟩
  | .number n => ⟨.number n, trivial⟩
  | .string s => ⟨.string s, trivial⟩
  | .array items =>
    ⟨.array (items.map Json.tree), Tree.distinctAll_iff.2 fun t ht => by
      obtain ⟨j, -, rfl⟩ := List.mem_map.1 ht
      exact j.distinct⟩
  | .object o =>
    ⟨.object o.trees, by
      refine ⟨?_, Tree.distinctMembers_iff.2 fun m hm => ?_⟩
      · rw [o.trees_keys]; exact o.nodup
      · obtain ⟨p, -, rfl⟩ := List.mem_map.1 hm
        exact p.2.distinct⟩

/-- The items of an array as values. -/
def itemsOf (items : List Tree) (h : Tree.DistinctAll items) : List Json :=
  items.attach.map fun t => ⟨t.1, Tree.distinctAll_iff.1 h t.1 t.2⟩

/-- The members of an object as values. -/
def membersOf (members : List (String × Tree)) (h : Tree.DistinctMembers members) :
    List (String × Json) :=
  members.attach.map fun m => (m.1.1, ⟨m.1.2, Tree.distinctMembers_iff.1 h m.1 m.2⟩)

theorem membersOf_keys (members : List (String × Tree)) (h : Tree.DistinctMembers members) :
    (membersOf members h).map Prod.fst = members.map Prod.fst := by
  simp only [membersOf, List.map_map, Function.comp_def]
  exact List.attach_map_val (f := Prod.fst)

/-- Takes a value apart one level deep. -/
def view : Json → View
  | ⟨.null, _⟩ => .null
  | ⟨.bool b, _⟩ => .bool b
  | ⟨.number n, _⟩ => .number n
  | ⟨.string s, _⟩ => .string s
  | ⟨.array items, h⟩ => .array (itemsOf items h)
  | ⟨.object members, h⟩ => .object ⟨membersOf members h.2, by rw [membersOf_keys]; exact h.1⟩

@[simp] theorem toJson_view (j : Json) : j.view.toJson = j := by
  obtain ⟨t, h⟩ := j
  cases t with
  | null | bool _ | number _ | string _ => rfl
  | array items =>
    refine Json.ext (congrArg Tree.array ?_)
    simp only [itemsOf, List.map_map, Function.comp_def]
    exact items.attach_map_subtype_val
  | object members =>
    refine Json.ext (congrArg Tree.object ?_)
    simp only [Object.trees, membersOf, List.map_map, Function.comp_def]
    exact members.attach_map_subtype_val

theorem toJson_injective {v w : View} (h : v.toJson = w.toJson) : v = w := by
  have ht : v.toJson.tree = w.toJson.tree := congrArg Json.tree h
  cases v <;> cases w <;> simp only [View.toJson, Tree.bool.injEq, Tree.number.injEq,
    Tree.string.injEq, Tree.array.injEq, Tree.object.injEq, reduceCtorEq] at ht ⊢
  · rw [ht]
  · rw [ht]
  · rw [ht]
  · refine congrArg View.array ?_
    exact (List.map_inj_right fun a b => Json.ext).1 ht
  · refine congrArg View.object (Object.ext ?_)
    refine (List.map_inj_right ?_).1 ht
    rintro ⟨k, a⟩ ⟨l, b⟩ e
    simp only [Prod.mk.injEq] at e
    exact Prod.ext e.1 (Json.ext e.2)

@[simp] theorem view_toJson (v : View) : v.toJson.view = v :=
  toJson_injective (toJson_view v.toJson)

/-- The null value. -/
def null : Json := View.null.toJson

/-- A boolean. -/
def bool (b : Bool) : Json := (View.bool b).toJson

/-- A number. -/
def number (n : Number) : Json := (View.number n).toJson

/-- A string. -/
def string (s : String) : Json := (View.string s).toJson

/-- An array. -/
def array (items : List Json) : Json := (View.array items).toJson

/-- An object. -/
def object (members : Object) : Json := (View.object members).toJson

/-- Whether a value is null. -/
def isNull (j : Json) : Bool :=
  match j.view with
  | .null => true
  | _ => false

/-- The members of an object. -/
def object? (j : Json) : Option Object :=
  match j.view with
  | .object o => some o
  | _ => none

/-- The items of an array. -/
def array? (j : Json) : Option (List Json) :=
  match j.view with
  | .array items => some items
  | _ => none

/-- The text of a string. -/
def string? (j : Json) : Option String :=
  match j.view with
  | .string s => some s
  | _ => none

@[simp] theorem view_null : null.view = .null := view_toJson _
@[simp] theorem view_bool (b : Bool) : (bool b).view = .bool b := view_toJson _
@[simp] theorem view_number (n : Number) : (number n).view = .number n := view_toJson _
@[simp] theorem view_string (s : String) : (string s).view = .string s := view_toJson _
@[simp] theorem view_array (items : List Json) : (array items).view = .array items := view_toJson _
@[simp] theorem view_object (o : Object) : (object o).view = .object o := view_toJson _

@[simp] theorem object?_object (o : Object) : (object o).object? = some o := by simp [object?]
@[simp] theorem array?_array (items : List Json) : (array items).array? = some items := by
  simp [array?]
@[simp] theorem string?_string (s : String) : (string s).string? = some s := by simp [string?]

end Json

end Credentials
