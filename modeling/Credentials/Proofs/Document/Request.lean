import Credentials.Proofs.Document.RoundTrip
import Credentials.Proofs.Permission

/-!
# Written requests are read back

The document of a request is read as the same request, unless the certificate in it expires in a
year that does not take four digits or one of its permissions is for an actor without an id: such an
actor can be made, but its text names nobody. Main statement: `request_read_back`, with all that can
go wrong.
-/

namespace Credentials

/-! ## Permissions -/

theorem Operation.mapM_ofJson (os : List Operation) :
    (os.map fun o => Json.string o.text).mapM Operation.ofJson = .ok os := by
  have hread (o o' : Operation) : Operation.ofJson (.string o.text) = .ok o' ↔ o' = o ∧ True := by
    simp [Operation.ofJson, eq_comm]
  exact (mapM_map_eq_ok_iff hread).2 ⟨rfl, fun _ _ => trivial⟩

theorem Permission.exists_toJson (p : Permission) : ∃ o, p.toJson = .object o ∧
    o.get? "actor" = some (.string p.actor.text) ∧
    o.get? "operations" = some (.array (p.operations.map fun o => .string o.text)) := by
  refine ⟨_, rfl, ?_, ?_⟩
  · exact Json.Object.get?_ofFields (by simp) "actor"
  · exact Json.Object.get?_ofFields (by simp) "operations"

/-- A permission is read back unless its actor has no id. -/
theorem Permission.ofJson_toJson (p : Permission) :
    Permission.ofJson p.toJson =
      if p.actor.id = "" then .error (Actor.fault p.actor.text .emptyId) else .ok p := by
  obtain ⟨o, ho, hactor, hoperations⟩ := p.exists_toJson
  have htext := Json.Object.requiredString_eq_ok_iff.2 hactor
  have hitems := Json.Object.requiredArray_eq_ok_iff.2 hoperations
  unfold Permission.ofJson
  simp only [ho, Json.asObject_eq_ok_iff.2 rfl, htext, Actor.ofString_text, hitems,
    Operation.mapM_ofJson, bind, Except.bind]
  by_cases hid : p.actor.id = ""
  · simp only [if_pos hid]
  · simp only [if_neg hid, p.allowAll_operations]
    rfl

/-- A permission is read back as it was unless its actor has an empty identifier. -/
theorem Permission.ofJson_toJson_eq_ok_iff (p q : Permission) :
    Permission.ofJson p.toJson = .ok q ↔ q = p ∧ p.actor.id ≠ "" := by
  rw [Permission.ofJson_toJson]
  by_cases hid : p.actor.id = ""
  · simp [hid]
  · simp [hid, eq_comm]

/-! ## Requests -/

/-- A draft makes a request exactly when it has the parts of the request. -/
theorem Draft.build_eq_ok_iff {d : Draft} {r : Request} :
    d.build = .ok r ↔ d = ⟨some r.name, r.overwrite, some r.value, r.permissions⟩ := by
  obtain ⟨name, overwrite, value, permissions⟩ := d
  unfold Draft.build
  constructor
  · intro h
    cases name with
    | none => cases h
    | some name =>
      cases value with
      | none => cases h
      | some value =>
        simp only at h
        split at h
        · cases h
        · cases h
          rfl
  · intro h
    cases h
    simp only
    split
    · rename_i e he
      rw [r.valid] at he
      cases he
    · rfl

/-- A draft with a name and a value is refused for its value alone. -/
theorem Draft.build_eq_error_iff {name : Name} {overwrite : Bool} {value : Value}
    {permissions : List Permission} {e : Error} :
    Draft.build ⟨some name, overwrite, some value, permissions⟩ = .error e ↔
      ∃ f, value.fault? = some f ∧ e = .validation f := by
  unfold Draft.build
  simp only
  split
  · rename_i f hf
    simp [hf, eq_comm]
  · rename_i hnone
    simp [hnone]

/-- Every permission is for an actor with an id. -/
def Request.ActorsNamed (r : Request) : Prop := ∀ p ∈ r.permissions, p.actor.id ≠ ""

/-- Why the document of a request is not read back: the value is looked at before the permissions,
and these one after the other. -/
inductive Request.Loss (r : Request) : Error → Prop
  | expiry (h : ¬ r.value.FourDigitYears) :
      Loss r (.malformed (.notTimestamp "expiry_date" .invalid))
  | permission {before after : List Permission} {p : Permission} (hv : r.value.FourDigitYears)
      (h : r.permissions = before ++ p :: after) (hbefore : ∀ q ∈ before, q.actor.id ≠ "")
      (hp : p.actor.id = "") : Loss r (Actor.fault p.actor.text .emptyId)

/-- The members of the object are the fields of the request that are set. -/
structure Request.Writes (r : Request) (o : Json.Object) : Prop where
  name : o.get? "name" = some (.string r.name.text)
  kind : o.get? "type" = some (.string r.kind.tag)
  overwrite : o.get? "overwrite" = some (.bool r.overwrite)
  value : o.get? "value" = some r.value.toJson
  permissions : o.get? "additional_permissions" =
    if r.permissions.isEmpty then none else some (.array (r.permissions.map Permission.toJson))

/-- The document of a request is an object with the members that are set. -/
theorem Request.exists_toJson (r : Request) : ∃ o, r.toJson = .object o ∧ r.Writes o := by
  refine ⟨_, rfl, ?_⟩
  constructor <;> exact Json.Object.get?_ofFields (by simp) _

/-- The permissions are left out when there are none, which reads as the empty list. -/
theorem Request.Writes.optionalArray {r : Request} {o : Json.Object} (h : r.Writes o) :
    ∃ items, o.optionalArray "additional_permissions" = .ok items ∧
      items.getD [] = r.permissions.map Permission.toJson := by
  have hget := h.permissions
  cases hp : r.permissions with
  | nil =>
    rw [hp] at hget
    exact ⟨none, Json.Object.optionalArray_eq_ok_iff.2 (.absent hget), rfl⟩
  | cons p ps =>
    rw [hp] at hget
    exact ⟨some _, Json.Object.optionalArray_eq_ok_iff.2 (.present hget rfl), rfl⟩

/-- The document of a request is read as the draft of it, unless a year is lost. -/
theorem Request.draft_toJson (r : Request) :
    Draft.ofJson r.toJson =
      if r.value.FourDigitYears then
        ((r.permissions.map Permission.toJson).mapM Permission.ofJson).map fun ps =>
          ⟨some r.name, r.overwrite, some r.value, ps⟩
      else .error (.malformed (.notTimestamp "expiry_date" .invalid)) := by
  obtain ⟨o, ho, hr⟩ := r.exists_toJson
  obtain ⟨items, hitems, hgetD⟩ := hr.optionalArray
  have hkind : Kind.ofObject o none = .ok r.kind := Kind.ofObject_eq_ok_iff.2 ⟨hr.kind, by simp⟩
  have hvalue : Value.ofObject o r.kind = _ := Value.ofObject_of_get? hr.value
  have hoverwrite : o.optionalBool "overwrite" = .ok (some r.overwrite) :=
    Json.Object.optionalBool_of_map hr.overwrite
  unfold Draft.ofJson
  by_cases hv : r.value.FourDigitYears
  · rw [if_pos hv] at hvalue ⊢
    simp only [ho, Json.asObject_eq_ok_iff.2 rfl, hkind, Name.ofObject_of_get? hr.name, hvalue,
      hoverwrite, hitems, hgetD, bind, Except.bind]
    rfl
  · rw [if_neg hv] at hvalue ⊢
    simp only [ho, Json.asObject_eq_ok_iff.2 rfl, hkind, Name.ofObject_of_get? hr.name, hvalue,
      bind, Except.bind]

/-- A request is read back as it was exactly if its actors have names and its years four digits. -/
theorem Request.ofJson_toJson_eq_ok_iff {r r' : Request} :
    Request.ofJson r.toJson = .ok r' ↔ r' = r ∧ r.ActorsNamed ∧ r.value.FourDigitYears := by
  unfold Request.ofJson
  rw [bind_eq_ok_iff, r.draft_toJson]
  by_cases hv : r.value.FourDigitYears
  · simp only [if_pos hv, map_eq_ok_iff, mapM_map_eq_ok_iff Permission.ofJson_toJson_eq_ok_iff,
      Draft.build_eq_ok_iff]
    constructor
    · rintro ⟨d, ⟨ps, ⟨rfl, hactors⟩, rfl⟩, hd⟩
      obtain ⟨hname, hoverwrite, hvalue, hpermissions⟩ := Draft.mk.inj hd
      exact ⟨Request.ext (Option.some.inj hname).symm hoverwrite.symm (Option.some.inj hvalue).symm
        hpermissions.symm, hactors, hv⟩
    · rintro ⟨rfl, hactors, -⟩
      exact ⟨_, ⟨_, ⟨rfl, hactors⟩, rfl⟩, rfl⟩
  · simp [hv]

/-- A request is not read back for the first loss in the order of reading. -/
theorem Request.ofJson_toJson_eq_error_iff {r : Request} {e : Error} :
    Request.ofJson r.toJson = .error e ↔ r.Loss e := by
  unfold Request.ofJson
  rw [bind_eq_error_iff, r.draft_toJson]
  constructor
  · rintro (h | ⟨d, hd, h⟩)
    · split at h
      · rename_i hv
        rw [map_eq_error_iff, mapM_map_eq_error_iff Permission.ofJson_toJson_eq_ok_iff] at h
        obtain ⟨before, p, after, hpermissions, hbefore, hp⟩ := h
        rw [Permission.ofJson_toJson] at hp
        split at hp
        · rename_i hid
          cases hp
          exact .permission hv hpermissions hbefore hid
        · cases hp
      · rename_i hv
        cases h
        exact .expiry hv
    · split at hd
      · obtain ⟨ps, hps, rfl⟩ := map_eq_ok_iff.1 hd
        obtain ⟨rfl, -⟩ := (mapM_map_eq_ok_iff Permission.ofJson_toJson_eq_ok_iff).1 hps
        rw [Draft.build_eq_ok_iff.2 rfl] at h
        cases h
      · cases hd
  · intro h
    cases h with
    | expiry hv => exact .inl (if_neg hv)
    | permission hv hpermissions hbefore hp =>
      rw [if_pos hv, map_eq_error_iff, mapM_map_eq_error_iff Permission.ofJson_toJson_eq_ok_iff]
      refine .inl ⟨_, _, _, hpermissions, hbefore, ?_⟩
      rw [Permission.ofJson_toJson, if_pos hp]

/-- A request is read back, as itself, exactly when every permission is for an actor with an id and
its certificate, if it writes one, expires in a year of four digits; otherwise it is refused. -/
theorem request_read_back (r : Request) :
    (∀ r', Request.ofJson r.toJson = .ok r' ↔ r' = r ∧ r.ActorsNamed ∧ r.value.FourDigitYears) ∧
      ∀ e, Request.ofJson r.toJson = .error e ↔ r.Loss e :=
  ⟨fun _ => Request.ofJson_toJson_eq_ok_iff, fun _ => Request.ofJson_toJson_eq_error_iff⟩

end Credentials
