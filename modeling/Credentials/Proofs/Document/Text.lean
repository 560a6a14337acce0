import Credentials.Proofs.Document.Request
import Credentials.Proofs.Json.ReadBack

/-!
# Documents as text

A document is read back from its compact text as long as a text may nest that deep. What a document
adds to the depth is fixed: one level around the value in a request and in a stored credential, three
levels around each value in a list of versions. Everything but the object of a JSON credential stays
far from the limit (`Value.NestsWithin`). Main statement: `request_text_read_back`.
-/

namespace Credentials

/-! ## Flat documents -/

/-- A document of one level, without doubles. -/
structure Json.IsFlat (j : Json) : Prop where
  depth_le : j.depth ≤ 1
  isFloatFree : j.IsFloatFree

/-- A text or a flag. -/
inductive Json.IsPlain : Json → Prop
  | string (s : String) : IsPlain (.string s)
  | bool (b : Bool) : IsPlain (.bool b)

/-- A plain value nests nothing. -/
theorem Json.IsPlain.depth_eq_zero {j : Json} (h : j.IsPlain) : j.depth = 0 := by
  cases h <;> rfl

theorem Json.IsPlain.isFloatFree {j : Json} (h : j.IsPlain) : j.IsFloatFree := by
  cases h <;> rfl

theorem Json.IsPlain.isFlat {j : Json} (h : j.IsPlain) : j.IsFlat :=
  ⟨h.depth_eq_zero.trans_le (Nat.zero_le 1), h.isFloatFree⟩

theorem Json.forall_isPlain_map {α : Type} {f : α → Json} (hf : ∀ a, (f a).IsPlain) (a : Option α) :
    ∀ j ∈ a.map f, j.IsPlain := by
  intro j hj
  obtain ⟨a, -, rfl⟩ := Option.map_eq_some_iff.1 hj
  exact hf a

/-- A text, a flag, or an object of texts and flags. -/
inductive Json.IsSimple : Json → Prop
  | plain {j : Json} (h : j.IsPlain) : IsSimple j
  | ofFields {fields : List (String × Option Json)} (h : (fields.map Prod.fst).Nodup)
      (hplain : ∀ f ∈ fields, ∀ j ∈ f.2, j.IsPlain) : IsSimple (.ofFields fields)

/-- An object of plain members nests only itself. -/
theorem Json.IsSimple.isFlat {j : Json} (h : j.IsSimple) : j.IsFlat := by
  cases h with
  | plain h => exact h.isFlat
  | ofFields h hplain =>
    refine ⟨(depth_ofFields_le_iff h).2 ?_, (isFloatFree_ofFields_iff h).2 ?_⟩
    · intro f hf j hj
      exact Nat.le_of_eq (hplain f hf j hj).depth_eq_zero
    · intro f hf j hj
      exact (hplain f hf j hj).isFloatFree

theorem Instant.isPlain_toJson (i : Instant) : i.toJson.IsPlain := .string i.render

theorem KeyPair.isSimple_toJson (k : KeyPair) : k.toJson.IsSimple := by
  refine .ofFields (by simp) ?_
  simp only [List.forall_mem_cons]
  exact ⟨Json.forall_isPlain_map .string _, Json.forall_isPlain_map .string _, nofun⟩

theorem Certificate.isSimple_toJson (c : Certificate) : c.toJson.IsSimple := by
  refine .ofFields (by simp) ?_
  have htext := Json.forall_isPlain_map Json.IsPlain.string
  have hflag := Json.forall_isPlain_map Json.IsPlain.bool
  simp only [List.forall_mem_cons]
  exact ⟨htext _, htext _, htext _, htext _, hflag _, hflag _, hflag _,
    Json.forall_isPlain_map Instant.isPlain_toJson _, nofun⟩

/-- A permission nests its operations, and nothing else. -/
theorem Permission.depth_toJson_le (p : Permission) : p.toJson.depth ≤ 2 := by
  refine (Json.depth_ofFields_le_iff (by simp)).2 ?_
  simp only [List.forall_mem_cons, Option.mem_some_iff, forall_eq']
  refine ⟨Nat.zero_le _, Json.depth_array_le_iff.2 ?_, nofun⟩
  simp

theorem Permission.isFloatFree_toJson (p : Permission) : p.toJson.IsFloatFree := by
  refine (Json.isFloatFree_ofFields_iff (by simp)).2 ?_
  simp only [List.forall_mem_cons, Option.mem_some_iff, forall_eq']
  refine ⟨Json.isFloatFree_string _, Json.isFloatFree_array_iff.2 ?_, nofun⟩
  rw [List.forall_mem_map]
  exact fun _ _ => Json.isFloatFree_string _

/-! ## Values -/

namespace Value

/-- The object of a JSON credential. -/
def object? : Value → Option Json.Object
  | .json o => some o
  | _ => none

/-- A JSON credential nests at most `n` deep, its own object included. -/
def NestsWithin (v : Value) (n : Nat) : Prop := ∀ o ∈ v.object?, (Json.object o).depth ≤ n

/-- No number in a JSON credential is a double. -/
def IsFloatFree (v : Value) : Prop := ∀ o ∈ v.object?, (Json.object o).IsFloatFree

instance (v : Value) (n : Nat) : Decidable (v.NestsWithin n) :=
  inferInstanceAs (Decidable (∀ o ∈ v.object?, (Json.object o).depth ≤ n))

/-- A JSON credential nests as deep as its object. -/
theorem nestsWithin_json_iff {o : Json.Object} {n : Nat} :
    (json o).NestsWithin n ↔ (Json.object o).depth ≤ n :=
  ⟨fun h => h o rfl, fun h p hp => by cases hp; exact h⟩

theorem isFloatFree_json_iff {o : Json.Object} :
    (json o).IsFloatFree ↔ (Json.object o).IsFloatFree :=
  ⟨fun h => h o rfl, fun h p hp => by cases hp; exact h⟩

/-- Only a JSON credential is more than texts and flags. -/
theorem isSimple_toJson {v : Value} (h : v.object? = none) : v.toJson.IsSimple := by
  cases v with
  | json o => cases h
  | value s => exact .plain (.string s)
  | password s => exact .plain (.string s)
  | user username password =>
    refine .ofFields (by simp) ?_
    simp only [List.forall_mem_cons]
    exact ⟨Json.forall_isPlain_map .string _, Json.forall_isPlain_map .string _, nofun⟩
  | ssh k => exact k.isSimple_toJson
  | rsa k => exact k.isSimple_toJson
  | certificate c => exact c.isSimple_toJson

theorem toJson_eq_of_object?_eq_some {v : Value} {o : Json.Object} (h : v.object? = some o) :
    v.toJson = .object o := by
  cases v <;> cases h
  rfl

/-- The payload of a value nests as deep as the value. -/
theorem depth_toJson_le_iff {v : Value} {n : Nat} (hn : 1 ≤ n) :
    v.toJson.depth ≤ n ↔ v.NestsWithin n := by
  unfold NestsWithin
  cases ho : v.object? with
  | none => exact iff_of_true ((isSimple_toJson ho).isFlat.depth_le.trans hn) nofun
  | some o =>
    rw [toJson_eq_of_object?_eq_some ho]
    simp only [Option.mem_some_iff, forall_eq']

theorem isFloatFree_toJson {v : Value} (h : v.IsFloatFree) : v.toJson.IsFloatFree := by
  cases ho : v.object? with
  | none => exact (isSimple_toJson ho).isFlat.isFloatFree
  | some o =>
    rw [toJson_eq_of_object?_eq_some ho]
    exact h o ho

end Value

/-! ## Documents around values -/

/-- The document of a stored credential nests one deeper than its value. -/
theorem Details.depth_toJson_le_iff {d : Details} {n : Nat} (hn : 1 ≤ n) :
    d.toJson.depth ≤ n + 1 ↔ d.value.NestsWithin n := by
  rw [Details.toJson, Json.depth_ofFields_le_iff (by simp), ← Value.depth_toJson_le_iff hn]
  simp [Instant.toJson]

theorem Details.isFloatFree_toJson {d : Details} (h : d.value.IsFloatFree) :
    d.toJson.IsFloatFree := by
  refine (Json.isFloatFree_ofFields_iff (by simp)).2 ?_
  simp only [List.forall_mem_cons, Option.mem_some_iff, forall_eq']
  refine ⟨Json.isFloatFree_string _, Json.isFloatFree_string _, Json.isFloatFree_string _,
    Value.isFloatFree_toJson h, ?_, nofun⟩
  intro j hj
  exact (Json.forall_isPlain_map Instant.isPlain_toJson _ j hj).isFloatFree

/-- The document of a list nests three deeper than the values in it. -/
theorem Versions.depth_toJson_le_iff {vs : Versions} {n : Nat} (hn : 1 ≤ n) :
    vs.toJson.depth ≤ n + 3 ↔ ∀ d ∈ vs.toList, d.value.NestsWithin n := by
  rw [Versions.toJson, Json.depth_ofFields_le_iff (by simp)]
  simp only [List.forall_mem_singleton, Option.mem_some_iff, forall_eq', Json.depth_array_le_iff,
    List.forall_mem_map, Details.depth_toJson_le_iff hn]

theorem Versions.isFloatFree_toJson {vs : Versions} (h : ∀ d ∈ vs.toList, d.value.IsFloatFree) :
    vs.toJson.IsFloatFree := by
  refine (Json.isFloatFree_ofFields_iff (by simp)).2 ?_
  simp only [List.forall_mem_singleton, Option.mem_some_iff, forall_eq', Json.isFloatFree_array_iff,
    List.forall_mem_map]
  exact fun d hd => Details.isFloatFree_toJson (h d hd)

/-- A request nests one deeper than its value, once its permissions fit too. -/
theorem Request.depth_toJson_le_iff {r : Request} {n : Nat} (hn : 3 ≤ n) :
    r.toJson.depth ≤ n + 1 ↔ r.value.NestsWithin n := by
  have hpermissions : (Json.array (r.permissions.map Permission.toJson)).depth ≤ n := by
    refine le_trans (Json.depth_array_le_iff.2 ?_) hn
    rw [List.forall_mem_map]
    exact fun p _ => p.depth_toJson_le
  rw [Request.toJson, Json.depth_ofFields_le_iff (by simp),
    ← Value.depth_toJson_le_iff (by omega)]
  cases r.permissions.isEmpty <;> simp [hpermissions]

theorem Request.isFloatFree_toJson {r : Request} (h : r.value.IsFloatFree) :
    r.toJson.IsFloatFree := by
  have hpermissions : (Json.array (r.permissions.map Permission.toJson)).IsFloatFree := by
    rw [Json.isFloatFree_array_iff, List.forall_mem_map]
    exact fun p _ => p.isFloatFree_toJson
  refine (Json.isFloatFree_ofFields_iff (by simp)).2 ?_
  simp only [List.forall_mem_cons, Option.mem_some_iff, forall_eq']
  refine ⟨Json.isFloatFree_string _, Json.isFloatFree_string _, Json.isFloatFree_bool _,
    Value.isFloatFree_toJson h, ?_, nofun⟩
  intro j hj
  split at hj
  · cases hj
  · cases hj
    exact hpermissions

/-! ## Requests -/

/-- A request that is read back from its document is read back from the text of the document too,
exactly when its value, if it is a JSON credential, nests at most 126 deep; the text of a deeper one
is refused for its depth. -/
theorem request_text_read_back {r : Request} (hnamed : r.ActorsNamed)
    (hyears : r.value.FourDigitYears) (hfloat : r.value.IsFloatFree) :
    ((∃ j, Json.read r.toJson.compact = .ok j ∧ Request.ofJson j = .ok r) ↔
        r.value.NestsWithin 126) ∧
      (¬ r.value.NestsWithin 126 →
        ∃ e, Json.read r.toJson.compact = .error e ∧ e.cause = .tooDeep) := by
  have hdepth : r.toJson.depth ≤ Json.maxDepth ↔ r.value.NestsWithin 126 :=
    Request.depth_toJson_le_iff (by decide)
  have hdeep (h : ¬ r.value.NestsWithin 126) :
      ∃ e, Json.read r.toJson.compact = .error e ∧ e.cause = .tooDeep :=
    Json.read_compact_of_lt_depth (Request.isFloatFree_toJson hfloat)
      (Nat.lt_of_not_le (mt hdepth.1 h))
  refine ⟨⟨?_, ?_⟩, hdeep⟩
  · rintro ⟨j, hj, -⟩
    by_contra h
    obtain ⟨e, he, -⟩ := hdeep h
    rw [he] at hj
    cases hj
  · intro h
    refine ⟨r.toJson, Json.read_compact (Request.isFloatFree_toJson hfloat) (hdepth.2 h), ?_⟩
    exact Request.ofJson_toJson_eq_ok_iff.2 ⟨rfl, hnamed, hyears⟩

/-- A JSON credential with `n` arrays inside each other. -/
def nestedRequest (n : Nat) : Request where
  name := ⟨"/nested", 'n', "ested".toList, rfl, by decide⟩
  overwrite := true
  value := .json (.nested n)
  permissions := [(Permission.ofActor ⟨.app, "x"⟩).allow .read]
  valid := rfl

/-- How deep the value of `nestedRequest` nests. -/
theorem nestedRequest_nestsWithin {n m : Nat} :
    (nestedRequest n).value.NestsWithin (m + 1) ↔ n ≤ m :=
  Value.nestsWithin_json_iff.trans Json.depth_nested_le_iff

theorem nestedRequest_isFloatFree (n : Nat) : (nestedRequest n).value.IsFloatFree :=
  Value.isFloatFree_json_iff.2 (Json.isFloatFree_nested n)

/-- A value that nests 126 deep is read back, and one that nests a level deeper is not. -/
theorem nestedRequest_text_read_back :
    (∃ j, Json.read (nestedRequest 125).toJson.compact = .ok j ∧
        Request.ofJson j = .ok (nestedRequest 125)) ∧
      ¬ ∃ j, Json.read (nestedRequest 126).toJson.compact = .ok j ∧
        Request.ofJson j = .ok (nestedRequest 126) := by
  have hnamed (n : Nat) : (nestedRequest n).ActorsNamed := by
    rintro p (⟨⟩ | ⟨_, ⟨⟩⟩)
    decide
  have hyears (n : Nat) : (nestedRequest n).value.FourDigitYears :=
    Value.fourDigitYears_of_none rfl
  refine ⟨?_, ?_⟩
  · exact (request_text_read_back (hnamed 125) (hyears 125) (nestedRequest_isFloatFree 125)).1.2
      (nestedRequest_nestsWithin.2 (by decide))
  · intro h
    have hfits := (request_text_read_back (hnamed 126) (hyears 126)
      (nestedRequest_isFloatFree 126)).1.1 h
    exact absurd (nestedRequest_nestsWithin.1 hfits) (by decide)

end Credentials
