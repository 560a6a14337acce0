import Credentials.Proofs.Instant.Render
import Credentials.Wire.Decode
import Credentials.Wire.Encode

/-!
# Members of documents

What the readers of single members accept, in terms of `Json.Object.get?` alone: a member that is
needed has to be there in its form (`requiredString_eq_ok_iff`, `requiredArray_eq_ok_iff`), and one
that may be left out may also be null (`Json.Object.Optional`). A member in another form is refused
(`Json.Object.Misfit`). The members of a written object are its fields that are set
(`get?_ofFields`). Whatever a reader of members refuses is a malformed document.
-/

namespace Credentials

namespace Json

/-! ## Forms -/

theorem view_eq_iff {j : Json} {v : View} : j.view = v ↔ j = v.toJson := by
  constructor
  · rintro rfl
    exact (toJson_view j).symm
  · rintro rfl
    exact view_toJson v

theorem object?_eq_some_iff {j : Json} {o : Object} : j.object? = some o ↔ j = .object o := by
  rw [object, ← view_eq_iff, object?]
  cases j.view <;> simp

theorem array?_eq_some_iff {j : Json} {items : List Json} :
    j.array? = some items ↔ j = .array items := by
  rw [array, ← view_eq_iff, array?]
  cases j.view <;> simp

theorem string?_eq_some_iff {j : Json} {s : String} : j.string? = some s ↔ j = .string s := by
  rw [string, ← view_eq_iff, string?]
  cases j.view <;> simp

theorem bool?_eq_some_iff {j : Json} {b : Bool} : j.bool? = some b ↔ j = .bool b := by
  rw [bool, ← view_eq_iff, bool?]
  cases j.view <;> simp

theorem isNull_iff {j : Json} : j.isNull = true ↔ j = .null := by
  rw [null, ← view_eq_iff, isNull]
  cases j.view <;> simp

theorem object_injective {o p : Object} (h : object o = object p) : o = p :=
  View.object.inj (toJson_injective h)

theorem string_injective {s t : String} (h : string s = string t) : s = t :=
  View.string.inj (toJson_injective h)

namespace Object

/-! ## Members that may be left out -/

/-- A member that may be left out: absent or null it is nothing, and else it is what `R` says. -/
inductive Optional {α : Type} (o : Object) (key : String) (R : Json → α → Prop) : Option α → Prop
  | absent (h : o.get? key = none) : Optional o key R none
  | null (h : o.get? key = some .null) : Optional o key R none
  | present {j : Json} {a : α} (h : o.get? key = some j) (hr : R j a) : Optional o key R (some a)

/-- A member is there, but neither null nor what `R` says. -/
def Misfit {α : Type} (o : Object) (key : String) (R : Json → α → Prop) : Prop :=
  ∃ j, o.get? key = some j ∧ j ≠ .null ∧ ∀ a, ¬ R j a

/-- A member is absent or null. -/
def Lacks (o : Object) (key : String) : Prop := o.get? key = none ∨ o.get? key = some .null

theorem present?_eq_some_iff {o : Object} {key : String} {j : Json} :
    o.present? key = some j ↔ o.get? key = some j ∧ j ≠ .null := by
  rw [present?, Option.filter_eq_some_iff, Ne, ← isNull_iff]
  simp

/-- A member with null counts as absent. -/
theorem present?_eq_none_iff {o : Object} {key : String} :
    o.present? key = none ↔ o.get? key = none ∨ o.get? key = some .null := by
  rw [present?, Option.filter_eq_none_iff]
  cases o.get? key with
  | none => simp
  | some j => simp [isNull_iff]

theorem optional_none_iff {α : Type} {o : Object} {key : String} {R : Json → α → Prop} :
    o.Optional key R none ↔ o.Lacks key := by
  constructor
  · intro h
    cases h with
    | absent hget => exact .inl hget
    | null hget => exact .inr hget
  · rintro (hget | hget)
    · exact .absent hget
    · exact .null hget

section

variable {α : Type} {o : Object} {key : String} {f : Json → Option α} {R : Json → α → Prop}
  {fault absent : String → Malformation}

theorem optional_some_iff {a : α} :
    o.Optional key R (some a) ↔ ∃ j, o.get? key = some j ∧ R j a := by
  constructor
  · intro h
    cases h with
    | present hget hr => exact ⟨_, hget, hr⟩
  · rintro ⟨j, hget, hr⟩
    exact .present hget hr

/-- The reader of an optional member accepts what has the form `R`, if `f` takes just that form. -/
theorem optional_eq_ok_iff (hf : ∀ j a, f j = some a ↔ R j a) (hnull : f .null = none)
    {r : Option α} : o.optional key f fault = .ok r ↔ o.Optional key R r := by
  unfold optional
  constructor
  · intro h
    split at h
    · rename_i habsent
      cases h
      rcases present?_eq_none_iff.1 habsent with h | h
      · exact .absent h
      · exact .null h
    · rename_i j hpresent
      split at h
      · rename_i a ha
        cases h
        exact .present (present?_eq_some_iff.1 hpresent).1 ((hf j a).1 ha)
      · cases h
  · rintro (h | h | ⟨h, hr⟩)
    · rw [present?_eq_none_iff.2 (.inl h)]
    · rw [present?_eq_none_iff.2 (.inr h)]
    · rename_i j a
      have hne : j ≠ .null := by
        rintro rfl
        rw [(hf _ _).2 hr] at hnull
        cases hnull
      simp only [present?_eq_some_iff.2 ⟨h, hne⟩, (hf j a).2 hr]

/-- A member that may be missing is refused only for what it is. -/
theorem optional_eq_error_iff (hf : ∀ j a, f j = some a ↔ R j a) {e : Error} :
    o.optional key f fault = .error e ↔ o.Misfit key R ∧ e = .malformed (fault key) := by
  unfold optional
  constructor
  · intro h
    split at h
    · cases h
    · rename_i j hpresent
      obtain ⟨hget, hne⟩ := present?_eq_some_iff.1 hpresent
      split at h
      · cases h
      · rename_i hnone
        cases h
        refine ⟨⟨j, hget, hne, fun a ha => ?_⟩, rfl⟩
        rw [(hf j a).2 ha] at hnone
        cases hnone
  · rintro ⟨⟨j, hget, hne, hmisfit⟩, rfl⟩
    rw [present?_eq_some_iff.2 ⟨hget, hne⟩]
    cases hj : f j with
    | some a => exact absurd ((hf j a).1 hj) (hmisfit a)
    | none => simp only [hj]

/-- A member that has to be there is read from what stands under its key. -/
theorem required_eq_ok_iff (hf : ∀ j a, f j = some a ↔ R j a) (hnull : f .null = none) {a : α} :
    o.required key f fault absent = .ok a ↔ ∃ j, o.get? key = some j ∧ R j a := by
  unfold required
  rw [bind_eq_ok_iff, ← optional_some_iff]
  constructor
  · rintro ⟨r, hr, h⟩
    cases r with
    | none => cases h
    | some b =>
      cases h
      exact (optional_eq_ok_iff hf hnull).1 hr
  · intro h
    exact ⟨some a, (optional_eq_ok_iff hf hnull).2 h, rfl⟩

/-- A member that has to be there is refused for what it is, or for being absent. -/
theorem required_eq_error_iff (hf : ∀ j a, f j = some a ↔ R j a) (hnull : f .null = none)
    {e : Error} :
    o.required key f fault absent = .error e ↔
      o.Misfit key R ∧ e = .malformed (fault key) ∨ o.Lacks key ∧ e = .malformed (absent key) := by
  unfold required
  rw [bind_eq_error_iff, optional_eq_error_iff hf, ← optional_none_iff (R := R),
    ← optional_eq_ok_iff hf hnull]
  refine or_congr_right ⟨?_, ?_⟩
  · rintro ⟨r, hr, h⟩
    cases r with
    | none =>
      cases h
      exact ⟨hr, rfl⟩
    | some a => cases h
  · rintro ⟨hr, rfl⟩
    exact ⟨none, hr, rfl⟩

end

end Object

/-- A text. -/
def IsText (j : Json) (s : String) : Prop := j = .string s

/-- A truth value. -/
def IsFlag (j : Json) (b : Bool) : Prop := j = .bool b

/-- A list. -/
def IsList (j : Json) (items : List Json) : Prop := j = .array items

/-- A timestamp of an instant. -/
def IsMoment (j : Json) (i : Instant) : Prop := ∃ s, j = .string s ∧ Instant.IsTimestamp s i

namespace Object

variable {o : Object} {key : String}

theorem optionalString_eq_ok_iff {r : Option String} :
    o.optionalString key = .ok r ↔ o.Optional key IsText r :=
  optional_eq_ok_iff (fun _ _ => string?_eq_some_iff) rfl

theorem optionalBool_eq_ok_iff {r : Option Bool} :
    o.optionalBool key = .ok r ↔ o.Optional key IsFlag r :=
  optional_eq_ok_iff (fun _ _ => bool?_eq_some_iff) rfl

theorem optionalArray_eq_ok_iff {r : Option (List Json)} :
    o.optionalArray key = .ok r ↔ o.Optional key IsList r :=
  optional_eq_ok_iff (fun _ _ => array?_eq_some_iff) rfl

/-- A text that has to be there is read as it is. -/
theorem requiredString_eq_ok_iff {s : String} :
    o.requiredString key = .ok s ↔ o.get? key = some (.string s) := by
  rw [requiredString, required_eq_ok_iff (R := IsText) (fun _ _ => string?_eq_some_iff) rfl]
  simp [IsText]

theorem requiredString_eq_error_iff {e : Error} :
    o.requiredString key = .error e ↔
      o.Misfit key IsText ∧ e = .malformed (.notString key) ∨
        o.Lacks key ∧ e = .malformed (.missing key) :=
  required_eq_error_iff (fun _ _ => string?_eq_some_iff) rfl

theorem optionalBool_eq_error_iff {e : Error} :
    o.optionalBool key = .error e ↔ o.Misfit key IsFlag ∧ e = .malformed (.notBoolean key) :=
  optional_eq_error_iff fun _ _ => bool?_eq_some_iff

theorem optionalArray_eq_error_iff {e : Error} :
    o.optionalArray key = .error e ↔ o.Misfit key IsList ∧ e = .malformed (.notArray key) :=
  optional_eq_error_iff fun _ _ => array?_eq_some_iff

theorem requiredArray_eq_ok_iff {items : List Json} :
    o.requiredArray key = .ok items ↔ o.get? key = some (.array items) := by
  rw [requiredArray, required_eq_ok_iff (R := IsList) (fun _ _ => array?_eq_some_iff) rfl]
  simp [IsList]

/-- An array that is absent is refused like one of another sort. -/
theorem eq_of_requiredArray_eq_error {e : Error} (h : o.requiredArray key = .error e) :
    e = .malformed (.notArray key) := by
  unfold requiredArray required optional at h
  cases hpresent : o.present? key with
  | none =>
    simp only [hpresent, bind, Except.bind, Except.error.injEq] at h
    exact h.symm
  | some j =>
    cases hj : array? j with
    | none =>
      simp only [hpresent, hj, bind, Except.bind, Except.error.injEq] at h
      exact h.symm
    | some items =>
      simp only [hpresent, hj, bind, Except.bind] at h
      cases h

theorem requiredArray_eq_error_iff {e : Error} :
    o.requiredArray key = .error e ↔
      (∀ items, o.get? key ≠ some (.array items)) ∧ e = .malformed (.notArray key) := by
  constructor
  · intro h
    refine ⟨fun items hitems => ?_, eq_of_requiredArray_eq_error h⟩
    rw [requiredArray_eq_ok_iff.2 hitems] at h
    cases h
  · rintro ⟨hnone, rfl⟩
    cases h : o.requiredArray key with
    | ok items => exact absurd (requiredArray_eq_ok_iff.1 h) (hnone items)
    | error e => rw [eq_of_requiredArray_eq_error h]

/-- A time is read from a text of the grammar of timestamps. -/
theorem optionalInstant_eq_ok_iff {r : Option Instant} :
    o.optionalInstant key = .ok r ↔ o.Optional key IsMoment r := by
  unfold optionalInstant
  rw [bind_eq_ok_iff]
  constructor
  · rintro ⟨t, ht, h⟩
    cases optionalString_eq_ok_iff.1 ht with
    | absent hget =>
      cases h
      exact .absent hget
    | null hget =>
      cases h
      exact .null hget
    | @present j text hget hj =>
      simp only at h
      split at h
      · rename_i i hi
        cases h
        exact .present hget ⟨text, hj, Instant.parse_eq_ok_iff.1 hi⟩
      · cases h
  · rintro (h | h | ⟨h, text, rfl, htext⟩)
    · exact ⟨none, optionalString_eq_ok_iff.2 (.absent h), rfl⟩
    · exact ⟨none, optionalString_eq_ok_iff.2 (.null h), rfl⟩
    · refine ⟨some text, optionalString_eq_ok_iff.2 (.present h rfl), ?_⟩
      simp only [Instant.parse_eq_ok_iff.2 htext]
      rfl

/-! ## Written objects -/

/-- A member that was put in is found under its key, and the others stay as they were. -/
theorem get?_foldl_insert? {fields : List (String × Option Json)}
    (h : (fields.map Prod.fst).Nodup) (o : Object) (key : String) :
    (fields.foldl (fun o f => o.insert? f.1 f.2) o).get? key =
      (fields.lookup key).join.or (o.get? key) := by
  induction fields generalizing o with
  | nil => simp
  | cons field fields ih =>
    obtain ⟨k, v⟩ := field
    obtain ⟨hk, hfields⟩ := List.nodup_cons.1 h
    rw [List.foldl_cons, ih hfields]
    by_cases hkey : key = k
    · subst hkey
      have hnone : fields.lookup key = none := by
        rw [List.lookup_eq_none_iff]
        intro p hp
        have hne : key ≠ p.1 := fun heq => hk (List.mem_map.2 ⟨p, hp, heq.symm⟩)
        simpa using hne
      cases v with
      | none => simp [hnone, insert?]
      | some j => simp [hnone, insert?]
    · have hne : (key == k) = false := by simpa using hkey
      cases v with
      | none => simp [List.lookup_cons, hne, insert?]
      | some j => simp [List.lookup_cons, hne, insert?, get?_insert_of_ne _ _ hkey]

/-- A written object has the fields that are set as its members. -/
theorem get?_ofFields {fields : List (String × Option Json)} (h : (fields.map Prod.fst).Nodup)
    (key : String) : (ofFields fields).get? key = (fields.lookup key).join := by
  rw [ofFields, get?_foldl_insert? h]
  simp

/-- A field that is written when it is set is read back. -/
theorem optional_of_map {α : Type} {R : Json → α → Prop} {f : α → Json} {r : Option α}
    (h : o.get? key = r.map f) (hf : ∀ a ∈ r, R (f a) a) : o.Optional key R r := by
  cases r with
  | none => exact .absent h
  | some a => exact .present h (hf a rfl)

theorem optionalString_of_map {r : Option String} (h : o.get? key = r.map .string) :
    o.optionalString key = .ok r :=
  optionalString_eq_ok_iff.2 (optional_of_map h fun _ _ => rfl)

theorem optionalBool_of_map {r : Option Bool} (h : o.get? key = r.map .bool) :
    o.optionalBool key = .ok r :=
  optionalBool_eq_ok_iff.2 (optional_of_map h fun _ _ => rfl)

/-- The time of a year that does not take four digits is written but not read back. -/
theorem optionalInstant_of_map {r : Option Instant} (h : o.get? key = r.map Instant.toJson) :
    o.optionalInstant key =
      if ∀ i ∈ r, i.FourDigitYear then .ok r
      else .error (.malformed (.notTimestamp key .invalid)) := by
  have htext : o.optionalString key = .ok (r.map Instant.render) :=
    optionalString_of_map (by rw [h, Option.map_map]; rfl)
  rw [optionalInstant, htext]
  cases r with
  | none => simp [bind, Except.bind, pure, Except.pure]
  | some i =>
    by_cases hyear : i.FourDigitYear
    · simp [bind, Except.bind, Instant.parse_render, hyear, pure, Except.pure]
    · simp [bind, Except.bind, Instant.parse_render, hyear]

end Object

end Json

/-! ## Faults -/

/-- The error is a document of the wrong shape. -/
def Error.IsMalformed (e : Error) : Prop := ∃ m, e = .malformed m

/-- The only errors are documents of the wrong shape. -/
def OnlyMalformed {α : Type} (x : Except Error α) : Prop := ∀ e, x = .error e → e.IsMalformed

namespace OnlyMalformed

variable {α β : Type}

/-- What succeeds fails in no other way. -/
theorem ok (a : α) : OnlyMalformed (.ok a) := fun _ h => by cases h

theorem malformed (m : Malformation) : OnlyMalformed (α := α) (.error (.malformed m)) := by
  intro e h
  cases h
  exact ⟨m, rfl⟩

/-- Two readers in sequence only find documents malformed if each of them does. -/
theorem bind {x : Except Error α} {f : α → Except Error β} (hx : OnlyMalformed x)
    (hf : ∀ a, OnlyMalformed (f a)) : OnlyMalformed (x >>= f) := fun e h => by
  rcases bind_eq_error_iff.1 h with h | ⟨a, -, h⟩
  · exact hx e h
  · exact hf a e h

end OnlyMalformed

namespace Json

theorem asObject_eq_ok_iff {subject : Subject} {j : Json} {o : Object} :
    asObject subject j = .ok o ↔ j = .object o := by
  rw [← object?_eq_some_iff, asObject]
  cases j.object? <;> simp

/-- What is no object is refused, with what it should have been. -/
theorem asObject_eq_error_iff {subject : Subject} {j : Json} {e : Error} :
    asObject subject j = .error e ↔ (∀ o, j ≠ .object o) ∧ e = .malformed (.notObject subject) := by
  constructor
  · intro h
    refine ⟨?_, ?_⟩
    · rintro o rfl
      rw [asObject_eq_ok_iff.2 rfl] at h
      cases h
    · unfold asObject at h
      split at h
      · cases h
      · cases h
        rfl
  · rintro ⟨hnone, rfl⟩
    unfold asObject
    split
    · rename_i o ho
      exact absurd (object?_eq_some_iff.1 ho) (hnone o)
    · rfl

theorem onlyMalformed_asObject (subject : Subject) (j : Json) :
    OnlyMalformed (asObject subject j) := by
  unfold asObject
  split
  · exact .ok _
  · exact .malformed _

namespace Object

variable (o : Object) (key : String) {α : Type} (f : Json → Option α)
  (fault absent : String → Malformation)

/-- Members that may be missing are refused as malformed and in no other way. -/
theorem onlyMalformed_optional : OnlyMalformed (o.optional key f fault) := by
  unfold optional
  split
  · exact .ok _
  · split
    · exact .ok _
    · exact .malformed _

/-- Members that have to be there are refused as malformed and in no other way. -/
theorem onlyMalformed_required : OnlyMalformed (o.required key f fault absent) := by
  refine .bind (o.onlyMalformed_optional key f fault) fun r => ?_
  cases r with
  | none => exact .malformed _
  | some a => exact .ok a

theorem onlyMalformed_optionalInstant : OnlyMalformed (o.optionalInstant key) := by
  refine .bind (o.onlyMalformed_optional key string? .notString) fun r => ?_
  cases r with
  | none => exact .ok none
  | some text =>
    simp only
    split
    · exact .ok _
    · exact .malformed _

end Object

end Json

end Credentials
