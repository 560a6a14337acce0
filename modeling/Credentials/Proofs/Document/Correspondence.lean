import Credentials.Proofs.Document.Refusal
import Credentials.Proofs.Instant.Unambiguous
import Credentials.Proofs.Json.Equality
import Credentials.Proofs.Permission

/-!
# Documents correspond to what they are about

Equal documents were written for equal requests and for equal stored credentials, and the other way
round. Reading back proves this only where reading back succeeds; here it holds throughout, also for
actors without an id and for any year, because no two fields are written alike: the parts of a
document are compared one by one, and the type in it says how its value was written. Main statement:
`documents_correspond`.
-/

namespace Credentials

open Json (SameOption string_beq_iff bool_beq_iff sameOption_string_iff sameOption_bool_iff)

/-! ## Texts of fields -/

/-- Different instants are written differently. -/
theorem Instant.toJson_beq_iff {i j : Instant} : (i.toJson == j.toJson) = true ↔ i = j := by
  rw [toJson, toJson, string_beq_iff]
  exact ⟨render_injective, fun h => h ▸ rfl⟩

theorem Instant.sameOption_toJson_iff {s t : Option Instant} :
    SameOption (s.map toJson) (t.map toJson) ↔ s = t :=
  Json.sameOption_map_iff fun _ _ => toJson_beq_iff

theorem Operation.text_injective {a b : Operation} (h : a.text = b.text) : a = b := by
  have hread := (Operation.ofString_text a).symm.trans
    ((congrArg Operation.ofString h).trans (Operation.ofString_text b))
  exact Except.ok.inj hread

theorem Name.text_inj {a b : Name} : a.text = b.text ↔ a = b := ⟨Name.ext, fun h => h ▸ rfl⟩

theorem Kind.tag_inj {a b : Kind} : a.tag = b.tag ↔ a = b :=
  ⟨fun h => Kind.tag_injective h, fun h => h ▸ rfl⟩

/-- Different permissions are written differently, and so are the orders of their operations. -/
theorem Permission.toJson_beq_iff (p q : Permission) :
    (p.toJson == q.toJson) = true ↔ p = q := by
  have hactor : p.actor.text = q.actor.text ↔ p.actor = q.actor :=
    ⟨Actor.text_injective, fun h => h ▸ rfl⟩
  have htext (a b : Operation) : (Json.string a.text == Json.string b.text) = true ↔ a = b :=
    string_beq_iff.trans ⟨Operation.text_injective, fun h => h ▸ rfl⟩
  rw [toJson, toJson, Json.ofFields_beq_iff (by simp) (by simp)]
  simp only [List.forall₂_cons, List.forall₂_nil_left_iff, Option.rel_some_some, string_beq_iff,
    hactor, Json.array_map_beq_iff htext, and_true]
  constructor
  · rintro ⟨ha, ho⟩
    exact Permission.ext ha ho
  · rintro rfl
    exact ⟨rfl, rfl⟩

/-! ## Values -/

/-- Different pairs of keys are written differently, and a key that is missing is not written as one
that is empty. -/
theorem KeyPair.toJson_beq_iff {a b : KeyPair} : (a.toJson == b.toJson) = true ↔ a = b := by
  rw [toJson, toJson, Json.ofFields_beq_iff (by simp) (by simp)]
  simp only [List.forall₂_cons, List.forall₂_nil_left_iff, sameOption_string_iff, and_true]
  constructor
  · rintro ⟨hp, hq⟩
    exact KeyPair.ext hp hq
  · rintro rfl
    exact ⟨rfl, rfl⟩

/-- Different certificates are written differently. -/
theorem Certificate.toJson_beq_iff {a b : Certificate} :
    (a.toJson == b.toJson) = true ↔ a = b := by
  rw [toJson, toJson, Json.ofFields_beq_iff (by simp) (by simp)]
  simp only [List.forall₂_cons, List.forall₂_nil_left_iff, sameOption_string_iff,
    sameOption_bool_iff, Instant.sameOption_toJson_iff, and_true]
  cases a
  cases b
  rw [Certificate.mk.injEq]

/-- Values of one kind are written alike only if they are equal. -/
theorem Value.toJson_beq_iff {v w : Value} (h : v.kind = w.kind) :
    (v.toJson == w.toJson) = true ↔ (v == w) = true := by
  change _ ↔ v.same w = true
  cases v <;> cases w <;> cases h
  case value.value s t => rw [toJson, toJson, string_beq_iff, same, beq_iff_eq]
  case json.json o p => rfl
  case password.password s t => rw [toJson, toJson, string_beq_iff, same, beq_iff_eq]
  case user.user a b c d =>
    rw [toJson, toJson, Json.ofFields_beq_iff (by simp) (by simp), same]
    simp only [List.forall₂_cons, List.forall₂_nil_left_iff, sameOption_string_iff, and_true,
      Bool.and_eq_true, beq_iff_eq]
  case ssh.ssh k l => rw [toJson, toJson, KeyPair.toJson_beq_iff, same, beq_iff_eq]
  case rsa.rsa k l => rw [toJson, toJson, KeyPair.toJson_beq_iff, same, beq_iff_eq]
  case certificate.certificate c d =>
    rw [toJson, toJson, Certificate.toJson_beq_iff, same, beq_iff_eq]

/-- Values of different kinds are never equal. -/
theorem Value.kind_eq_of_beq {v w : Value} (h : (v == w) = true) : v.kind = w.kind := by
  change v.same w = true at h
  cases v <;> cases w <;> first | rfl | cases h

/-- The type in a document and the value in it settle the value. -/
theorem Value.kind_and_toJson_beq_iff {v w : Value} :
    v.kind = w.kind ∧ (v.toJson == w.toJson) = true ↔ (v == w) = true := by
  constructor
  · rintro ⟨hkind, hjson⟩
    exact (Value.toJson_beq_iff hkind).1 hjson
  · intro h
    have hkind := Value.kind_eq_of_beq h
    exact ⟨hkind, (Value.toJson_beq_iff hkind).2 h⟩

/-! ## Requests and stored credentials -/

/-- Requests are equal part by part; of JSON values the order of members does not count. -/
theorem Request.beq_iff {r s : Request} :
    (r == s) = true ↔
      r.name = s.name ∧ r.overwrite = s.overwrite ∧ (r.value == s.value) = true ∧
        r.permissions = s.permissions := by
  change (r.name == s.name && r.overwrite == s.overwrite && r.value == s.value &&
    r.permissions == s.permissions) = true ↔ _
  simp only [Bool.and_eq_true, beq_iff_eq, and_assoc]

theorem Details.beq_iff {d e : Details} :
    (d == e) = true ↔
      d.id = e.id ∧ d.name = e.name ∧ (d.value == e.value) = true ∧ d.createdAt = e.createdAt := by
  change (d.id == e.id && d.name == e.name && d.value == e.value &&
    d.createdAt == e.createdAt) = true ↔ _
  simp only [Bool.and_eq_true, beq_iff_eq, and_assoc]

/-- The list of permissions is left out when it is empty, and an empty list is never written. -/
theorem sameOption_permissions_iff {ps qs : List Permission} :
    SameOption (if ps.isEmpty then none else some (.array (ps.map Permission.toJson)))
        (if qs.isEmpty then none else some (.array (qs.map Permission.toJson))) ↔ ps = qs := by
  cases ps with
  | nil => cases qs <;> simp
  | cons p ps =>
    cases qs with
    | nil => simp
    | cons q qs => exact Option.rel_some_some.trans (Json.array_map_beq_iff Permission.toJson_beq_iff)

/-- Documents of requests are equal exactly if the requests are. -/
theorem Request.toJson_beq_iff {r s : Request} : (r.toJson == s.toJson) = true ↔ (r == s) = true := by
  rw [toJson, toJson, Json.ofFields_beq_iff (by simp) (by simp), Request.beq_iff,
    ← Value.kind_and_toJson_beq_iff]
  simp only [List.forall₂_cons, List.forall₂_nil_left_iff, Option.rel_some_some, string_beq_iff,
    bool_beq_iff, sameOption_permissions_iff, Name.text_inj, Kind.tag_inj, Request.kind, and_true]
  constructor
  · rintro ⟨hname, hkind, hoverwrite, hvalue, hpermissions⟩
    exact ⟨hname, hoverwrite, ⟨hkind, hvalue⟩, hpermissions⟩
  · rintro ⟨hname, hoverwrite, ⟨hkind, hvalue⟩, hpermissions⟩
    exact ⟨hname, hkind, hoverwrite, hvalue, hpermissions⟩

/-- Documents of stored credentials are equal exactly if the credentials are. -/
theorem Details.toJson_beq_iff {d e : Details} : (d.toJson == e.toJson) = true ↔ (d == e) = true := by
  rw [toJson, toJson, Json.ofFields_beq_iff (by simp) (by simp), Details.beq_iff,
    ← Value.kind_and_toJson_beq_iff]
  simp only [List.forall₂_cons, List.forall₂_nil_left_iff, Option.rel_some_some, string_beq_iff,
    Name.text_inj, Kind.tag_inj, Instant.sameOption_toJson_iff, Details.kind, and_true]
  constructor
  · rintro ⟨hid, hname, hkind, hvalue, hcreated⟩
    exact ⟨hid, hname, ⟨hkind, hvalue⟩, hcreated⟩
  · rintro ⟨hid, hname, ⟨hkind, hvalue⟩, hcreated⟩
    exact ⟨hid, hname, hkind, hvalue, hcreated⟩

/-- The documents of two requests are equal exactly when the requests are, and so are those of two
stored credentials. -/
theorem documents_correspond :
    (∀ r s : Request, (r.toJson == s.toJson) = true ↔ (r == s) = true) ∧
      ∀ d e : Details, (d.toJson == e.toJson) = true ↔ (d == e) = true :=
  ⟨fun _ _ => Request.toJson_beq_iff, fun _ _ => Details.toJson_beq_iff⟩

end Credentials
