import Credentials.Proofs.Document.Permission
import Credentials.Proofs.Document.Request
import Credentials.Proofs.Json.Edit

/-!
# Requests and stored credentials in one document

A document for a request and one for a stored credential have their type, name and value in common,
and the two readers agree about these. What is read as a request is a stored credential as soon as
it has an id. A document that describes a stored credential is refused as a request only for its own
members, `overwrite` before the permissions, or for a value that breaks a rule of presence
(`Details.Requested`).
-/

namespace Credentials

open Json (IsFlag)

/-! ## The grammar of requests -/

/-- The members of the object describe the request. -/
structure Requests (o : Json.Object) (r : Request) : Prop where
  kind : o.get? "type" = some (.string r.kind.tag)
  name : ∃ raw, o.get? "name" = some (.string raw) ∧ r.name.Normalizes raw
  value : ∃ j, o.get? "value" = some j ∧ PayloadOf j r.value
  overwrite : ∃ b, o.Optional "overwrite" IsFlag b ∧ r.overwrite = b.getD false
  permissions : ListsPermissions o r.permissions

/-- An object is read as a request exactly when its members describe it. -/
theorem Request.ofJson_object_eq_ok_iff {o : Json.Object} {r : Request} :
    Request.ofJson (.object o) = .ok r ↔ Requests o r := by
  unfold Request.ofJson
  rw [Draft.ofJson_object]
  simp only [bind_eq_ok_iff, Kind.ofObject_eq_ok_iff, Name.ofObject_eq_ok_iff,
    Value.ofObject_eq_ok_iff, Json.Object.optionalBool_eq_ok_iff, readPermissions_eq_ok_iff,
    Draft.build_eq_ok_iff]
  constructor
  · rintro ⟨d, ⟨kind, ⟨htag, -⟩, name, hname, value, ⟨rfl, hvalue⟩, b, hb, ps, hps, hd⟩, rfl⟩
    obtain ⟨hn, hoverwrite, hv, hpermissions⟩ := Draft.mk.inj (Except.ok.inj hd)
    obtain rfl := Option.some.inj hn
    obtain rfl := Option.some.inj hv
    obtain rfl := hpermissions
    exact ⟨htag, hname, hvalue, ⟨b, hb, hoverwrite.symm⟩, hps⟩
  · intro h
    obtain ⟨b, hb, hoverwrite⟩ := h.overwrite
    refine ⟨_, ⟨r.kind, ⟨h.kind, by simp⟩, r.name, h.name, r.value, ⟨rfl, h.value⟩, b, hb,
      r.permissions, h.permissions, ?_⟩, rfl⟩
    rw [hoverwrite]
    rfl

/-! ## From a request to a stored credential -/

/-- The object with an id, and without the time of a version. -/
def Json.Object.asVersion (o : Json.Object) (id : String) : Json.Object :=
  (o.insert "id" (.string id)).erase "version_created_at"

/-- A document that is taken for a version differs in two members only. -/
theorem Json.Object.get?_asVersion (o : Json.Object) (id : String) {key : String}
    (hid : key ≠ "id") (htime : key ≠ "version_created_at") :
    (o.asVersion id).get? key = o.get? key := by
  rw [asVersion, get?_erase_of_ne _ htime, get?_insert_of_ne _ _ hid]

/-- What describes a request describes a version of it as well, once there is an identifier. -/
theorem Requests.describes {o : Json.Object} {r : Request} (h : Requests o r) (id : String) :
    Describes (some r.kind) (o.asVersion id) ⟨id, r.name, r.value, none⟩ where
  kind := by
    rw [o.get?_asVersion id (by decide) (by decide)]
    exact h.kind
  expected := by
    intro k hk
    exact (Option.some.inj hk).symm
  id := by
    rw [Json.Object.asVersion, Json.Object.get?_erase_of_ne _ (by decide)]
    exact Json.Object.get?_insert_self _ _ _
  name := by
    rw [o.get?_asVersion id (by decide) (by decide)]
    exact h.name
  value := by
    rw [o.get?_asVersion id (by decide) (by decide)]
    exact h.value
  createdAt := .absent (Json.Object.get?_erase_self _ _)

/-! ## From a stored credential to a request -/

/-- What an object that describes the stored credential `d` comes to when read as a request. -/
inductive Details.Requested (o : Json.Object) (d : Details) : Except Error Request → Prop
  | overwrite (h : o.Misfit "overwrite" IsFlag) :
      Requested o d (.error (.malformed (.notBoolean "overwrite")))
  | permissions {b : Option Bool} {e : Error} (hb : o.Optional "overwrite" IsFlag b)
      (h : PermissionsRefusal o e) : Requested o d (.error e)
  | value {b : Option Bool} {ps : List Permission} {e : ValidationError}
      (hb : o.Optional "overwrite" IsFlag b) (hps : ListsPermissions o ps)
      (h : d.value.fault? = some e) : Requested o d (.error (.validation e))
  | request {b : Option Bool} {r : Request} (hb : o.Optional "overwrite" IsFlag b)
      (hps : ListsPermissions o r.permissions) (hname : r.name = d.name)
      (hvalue : r.value = d.value) (hoverwrite : r.overwrite = b.getD false) :
      Requested o d (.ok r)

/-- A document that describes a credential is a request, apart from what a credential does not have. -/
theorem Describes.request_eq {o : Json.Object} {d : Details} (h : Describes none o d) :
    Request.ofJson (.object o) = (do
      let overwrite ← o.optionalBool "overwrite"
      let permissions ← readPermissions o
      Draft.build ⟨some d.name, overwrite.getD false, some d.value, permissions⟩) := by
  have hkind : Kind.ofObject o none = .ok d.kind := Kind.ofObject_eq_ok_iff.2 ⟨h.kind, h.expected⟩
  have hname : Name.ofObject o = .ok d.name := Name.ofObject_eq_ok_iff.2 h.name
  have hvalue : Value.ofObject o d.kind = .ok d.value := Value.ofObject_eq_ok_iff.2 ⟨rfl, h.value⟩
  unfold Request.ofJson
  rw [Draft.ofJson_object, hkind]
  simp only [ok_bind, hname, hvalue, bind_assoc, pure_bind]

/-- Reading a document that describes a credential as a request goes as the rules say. -/
theorem Describes.requested {o : Json.Object} {d : Details} (h : Describes none o d) :
    d.Requested o (Request.ofJson (.object o)) := by
  -- The cases come in the order in which the reader looks: flag, permissions, value.
  cases hread : Request.ofJson (.object o) with
  | error e =>
    rw [h.request_eq] at hread
    rcases bind_eq_error_iff.1 hread with hb | ⟨b, hb, hread⟩
    · obtain ⟨hmisfit, rfl⟩ := Json.Object.optionalBool_eq_error_iff.1 hb
      exact .overwrite hmisfit
    rw [Json.Object.optionalBool_eq_ok_iff] at hb
    rcases bind_eq_error_iff.1 hread with hps | ⟨ps, hps, hbuild⟩
    · exact .permissions hb (readPermissions_eq_error_iff.1 hps)
    · obtain ⟨f, hf, rfl⟩ := Draft.build_eq_error_iff.1 hbuild
      exact .value hb (readPermissions_eq_ok_iff.1 hps) hf
  | ok r =>
    rw [h.request_eq] at hread
    obtain ⟨b, hb, hread⟩ := bind_eq_ok_iff.1 hread
    obtain ⟨ps, hps, hbuild⟩ := bind_eq_ok_iff.1 hread
    have hdraft := Draft.build_eq_ok_iff.1 hbuild
    obtain ⟨hname, hoverwrite, hvalue, hpermissions⟩ := Draft.mk.inj hdraft
    rw [Json.Object.optionalBool_eq_ok_iff] at hb
    rw [readPermissions_eq_ok_iff, hpermissions] at hps
    exact .request hb hps (Option.some.inj hname).symm (Option.some.inj hvalue).symm hoverwrite.symm

/-- The rules settle what reading the document as a request comes to. -/
theorem Details.Requested.eq {o : Json.Object} {d : Details} {x : Except Error Request}
    (h : d.Requested o x) (hd : Describes none o d) : Request.ofJson (.object o) = x := by
  rw [hd.request_eq]
  cases h with
  | overwrite hmisfit =>
    rw [Json.Object.optionalBool_eq_error_iff.2 ⟨hmisfit, rfl⟩]
    rfl
  | permissions hb hps =>
    rw [Json.Object.optionalBool_eq_ok_iff.2 hb, ok_bind]
    exact bind_eq_error_iff.2 (.inl (readPermissions_eq_error_iff.2 hps))
  | value hb hps hf =>
    rw [Json.Object.optionalBool_eq_ok_iff.2 hb, ok_bind]
    refine bind_eq_error_iff.2 (.inr ⟨_, readPermissions_eq_ok_iff.2 hps, ?_⟩)
    exact Draft.build_eq_error_iff.2 ⟨_, hf, rfl⟩
  | request hb hps hname hvalue hoverwrite =>
    rw [Json.Object.optionalBool_eq_ok_iff.2 hb, ok_bind]
    refine bind_eq_ok_iff.2 ⟨_, readPermissions_eq_ok_iff.2 hps, Draft.build_eq_ok_iff.2 ?_⟩
    rw [hname, hvalue, hoverwrite]

/-- What is read as a request is, with any id and without a time, a stored credential of the same
name and value; what is read as a stored credential comes as a request to what `Details.Requested`
says, and to nothing else. -/
theorem readers_agree (o : Json.Object) :
    (∀ r, Request.ofJson (.object o) = .ok r → ∀ id,
      Details.ofJson (some r.kind) (.object (o.asVersion id)) = .ok ⟨id, r.name, r.value, none⟩) ∧
      ∀ d, Details.ofJson none (.object o) = .ok d →
        ∀ x, Request.ofJson (.object o) = x ↔ d.Requested o x := by
  constructor
  · intro r hr id
    rw [Request.ofJson_object_eq_ok_iff] at hr
    exact Details.ofJson_eq_ok_iff.2 ⟨_, rfl, hr.describes id⟩
  · intro d hd x
    obtain ⟨p, hp, hdescribes⟩ := Details.ofJson_eq_ok_iff.1 hd
    obtain rfl := Json.object_injective hp
    constructor
    · rintro rfl
      exact hdescribes.requested
    · intro hx
      exact hx.eq hdescribes

/-- A document that serves as both: an operation comes twice, a key is empty, the time is null. -/
def sharedMembers : Json.Object :=
  .ofFields
    [("id", some (.string "1")),
      ("overwrite", some (.bool true)),
      ("name", some (.string "//m")),
      ("type", some (.string "ssh")),
      ("value", some (.ofFields
        [("public_key", some (.string "")), ("private_key", some (.string "k"))])),
      ("version_created_at", some .null),
      ("additional_permissions", some (.array [.ofFields
        [("operations", some (.array [.string "write", .string "read", .string "write"])),
          ("actor", some (.string "uaa-user:u:v"))]]))]

/-- The request that it describes. -/
def sharedRequest : Request where
  name := ⟨"/m", 'm', [], by decide, by decide⟩
  overwrite := true
  value := .ssh (.ofKeys none (some "k"))
  permissions := [⟨⟨.user, "u:v"⟩, [.write, .read], by decide⟩]
  valid := rfl

/-- The version that it describes. -/
def sharedDetails : Details := ⟨"1", sharedRequest.name, sharedRequest.value, none⟩

/-- A document with an identifier and an actor is a request and a stored credential at once. -/
theorem sharedMembers_agree :
    Request.ofJson (.object sharedMembers) = .ok sharedRequest ∧
      Details.ofJson (some .ssh) (.object (sharedMembers.asVersion "2")) =
        .ok { sharedDetails with id := "2" } ∧
      Details.ofJson none (.object sharedMembers) = .ok sharedDetails ∧
      sharedDetails.Requested sharedMembers (.ok sharedRequest) := by
  have hr : Request.ofJson (.object sharedMembers) = .ok sharedRequest := rfl
  have hd : Details.ofJson none (.object sharedMembers) = .ok sharedDetails := rfl
  refine ⟨hr, ?_, hd, ?_⟩
  · exact (readers_agree sharedMembers).1 sharedRequest hr "2"
  · exact ((readers_agree sharedMembers).2 sharedDetails hd (.ok sharedRequest)).1 hr

end Credentials
