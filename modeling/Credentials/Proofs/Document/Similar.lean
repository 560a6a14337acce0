import Credentials.Proofs.Document.Agreement

/-!
# Documents that readers cannot tell apart

Each reader knows a few keys of each object that it takes apart, and it looks members up one by one.
So the order of the members does not matter to it, nor do members of other keys, nor whether a
member is null or absent. `Details.Edit`, `Versions.Edit` and `Request.Edit` are the changes of this
kind in one object of a document: the outermost, the payload of a credential, an entry of the list
of versions or of the list of permissions. The payload of a JSON credential is not among them, since
it is the value and is kept with all its members. One change leaves what is read as it is
(`Details.Edit.ofJson_eq`, `Versions.Edit.ofJson_eq`, `Request.Edit.ofJson_eq`), and so does any
number of them (`readers_ignore_edits`).
-/

namespace Credentials

open Json.Object (AgreeOn)

/-! ## What the readers know -/

/-- The keys that count in the payload of a credential of a kind. -/
def Kind.payloadKeys : Kind → List String
  | .value => ["value"]
  | .json => []
  | .password => ["password"]
  | .user => ["username", "password"]
  | .ssh | .rsa => ["public_key", "private_key"]
  | .certificate =>
    ["certificate", "certificate_authority", "private_key", "certificate_authority_name",
      "self_signed", "generated", "transitional", "expiry_date"]

/-- The keys that count in a stored credential. -/
def Details.keys : List String := ["type", "id", "name", "value", "version_created_at"]

/-- The keys that count in a list of versions. -/
def Versions.keys : List String := ["data"]

/-- The keys that count in a permission. -/
def Permission.keys : List String := ["actor", "operations"]

/-- The keys that count in a request. -/
def Request.keys : List String := ["type", "name", "value", "overwrite", "additional_permissions"]

/-- The kind that the type of an object names. -/
def Json.Object.kind? (o : Json.Object) : Option Kind :=
  ((o.get? "type").bind Json.string?).bind Kind.ofTag?

/-- The keys that count in the payload of an object; without a known type there is none. -/
def Json.Object.payloadKeys (o : Json.Object) : List String :=
  (o.kind?.map Kind.payloadKeys).getD []

/-! ## Changes in one object of a document -/

/-- The payload changes, unless it is that of a JSON credential. -/
inductive PayloadEdit : Json.Object → Json.Object → Prop
  | intro {o m n : Json.Object} (hkind : o.kind? ≠ some .json)
      (hvalue : o.get? "value" = some (.object m)) (h : m.Similar o.payloadKeys n) :
      PayloadEdit o (o.insert "value" (.object n))

/-- One entry of the list under a key changes. -/
inductive EntryEdit (key : String) (R : Json → Json → Prop) : Json.Object → Json.Object → Prop
  | intro {o : Json.Object} {before after : List Json} {x y : Json}
      (hlist : o.get? key = some (.array (before ++ x :: after))) (h : R x y) :
      EntryEdit key R o (o.insert key (.array (before ++ y :: after)))

/-- A change in the document of a stored credential. -/
inductive Details.Edit : Json → Json → Prop
  | envelope {o p : Json.Object} (h : o.Similar Details.keys p) :
      Details.Edit (.object o) (.object p)
  | payload {o p : Json.Object} (h : PayloadEdit o p) : Details.Edit (.object o) (.object p)

/-- A change in the document of a list of versions. -/
inductive Versions.Edit : Json → Json → Prop
  | envelope {o p : Json.Object} (h : o.Similar Versions.keys p) :
      Versions.Edit (.object o) (.object p)
  | item {o p : Json.Object} (h : EntryEdit "data" Details.Edit o p) :
      Versions.Edit (.object o) (.object p)

/-- A change in the document of a permission. -/
inductive Permission.Edit : Json → Json → Prop
  | envelope {o p : Json.Object} (h : o.Similar Permission.keys p) :
      Permission.Edit (.object o) (.object p)

/-- A change in the document of a request. -/
inductive Request.Edit : Json → Json → Prop
  | envelope {o p : Json.Object} (h : o.Similar Request.keys p) :
      Request.Edit (.object o) (.object p)
  | payload {o p : Json.Object} (h : PayloadEdit o p) : Request.Edit (.object o) (.object p)
  | permission {o p : Json.Object} (h : EntryEdit "additional_permissions" Permission.Edit o p) :
      Request.Edit (.object o) (.object p)

/-! ## Readers of members -/

namespace Json.Object

variable {o p : Object} {key : String}

/-- Reading a member looks at nothing but whether it is present and what it is. -/
theorem optional_congr {α : Type} {f : Json → Option α} {fault : String → Malformation}
    (h : o.present? key = p.present? key) : o.optional key f fault = p.optional key f fault := by
  rw [optional, optional, h]

theorem required_congr {α : Type} {f : Json → Option α} {fault absent : String → Malformation}
    (h : o.present? key = p.present? key) :
    o.required key f fault absent = p.required key f fault absent := by
  rw [required, required, optional_congr h]

theorem requiredString_congr (h : o.present? key = p.present? key) :
    o.requiredString key = p.requiredString key := required_congr h

theorem optionalString_congr (h : o.present? key = p.present? key) :
    o.optionalString key = p.optionalString key := optional_congr h

theorem optionalBool_congr (h : o.present? key = p.present? key) :
    o.optionalBool key = p.optionalBool key := optional_congr h

theorem optionalInstant_congr (h : o.present? key = p.present? key) :
    o.optionalInstant key = p.optionalInstant key := by
  rw [optionalInstant, optionalInstant, optionalString_congr h]

theorem agreeOn_insert (o : Object) (j : Json) {keys : List String} (hkeys : key ∉ keys) :
    AgreeOn keys o (o.insert key j) := by
  intro other hother
  refine present?_congr (get?_insert_of_ne o j ?_).symm
  rintro rfl
  exact hkeys hother

theorem AgreeOn.subset {keys known : List String} (h : AgreeOn known o p) (hkeys : keys ⊆ known) :
    AgreeOn keys o p := fun key hkey => h key (hkeys hkey)

/-- A kind that is read is the one that the document names. -/
theorem kind?_of_ofObject {expected : Option Kind} {k : Kind}
    (h : Kind.ofObject o expected = .ok k) : o.kind? = some k := by
  rw [kind?, (Kind.ofObject_eq_ok_iff.1 h).1]
  simp

end Json.Object

section

variable {o p : Json.Object}

theorem Kind.ofObject_congr (h : o.present? "type" = p.present? "type") (expected : Option Kind) :
    Kind.ofObject o expected = Kind.ofObject p expected := by
  rw [Kind.ofObject, Kind.ofObject, Json.Object.requiredString_congr h]

theorem Name.ofObject_congr (h : o.present? "name" = p.present? "name") :
    Name.ofObject o = Name.ofObject p := by
  rw [Name.ofObject, Name.ofObject, Json.Object.requiredString_congr h]

theorem Value.ofObject_congr (h : o.present? "value" = p.present? "value") (kind : Kind) :
    Value.ofObject o kind = Value.ofObject p kind := by
  rw [Value.ofObject, Value.ofObject, h]

theorem readPermissions_congr
    (h : o.present? "additional_permissions" = p.present? "additional_permissions") :
    readPermissions o = readPermissions p := by
  rw [readPermissions, readPermissions, Json.Object.optionalArray, Json.Object.optionalArray,
    Json.Object.optional_congr h]

theorem KeyPair.ofObject_congr (h : AgreeOn ["public_key", "private_key"] o p) :
    KeyPair.ofObject o = KeyPair.ofObject p := by
  have hpublic := Json.Object.optionalString_congr (h "public_key" (by simp))
  have hprivate := Json.Object.optionalString_congr (h "private_key" (by simp))
  rw [KeyPair.ofObject, KeyPair.ofObject, hpublic, hprivate]

theorem Certificate.ofObject_congr (h : AgreeOn Kind.certificate.payloadKeys o p) :
    Certificate.ofObject o = Certificate.ofObject p := by
  have htext (key : String) (hkey : key ∈ Kind.certificate.payloadKeys) :
      o.optionalString key = p.optionalString key := Json.Object.optionalString_congr (h key hkey)
  have hflag (key : String) (hkey : key ∈ Kind.certificate.payloadKeys) :
      o.optionalBool key = p.optionalBool key := Json.Object.optionalBool_congr (h key hkey)
  have hexpiry : o.optionalInstant "expiry_date" = p.optionalInstant "expiry_date" :=
    Json.Object.optionalInstant_congr (h _ (by decide))
  rw [Certificate.ofObject, Certificate.ofObject, htext "certificate" (by decide),
    htext "certificate_authority" (by decide), htext "private_key" (by decide),
    htext "certificate_authority_name" (by decide), hflag "self_signed" (by decide),
    hflag "generated" (by decide), hflag "transitional" (by decide), hexpiry]

end

/-! ## Payloads -/

/-- Of a payload only the members count that its kind knows, unless it is JSON itself. -/
theorem Value.ofJson_object_congr {kind : Kind} {m n : Json.Object} (hkind : kind ≠ .json)
    (h : AgreeOn kind.payloadKeys m n) :
    Value.ofJson kind (.object m) = Value.ofJson kind (.object n) := by
  cases kind with
  | json => exact absurd rfl hkind
  | value =>
    have htext := Json.Object.requiredString_congr (h "value" (by decide))
    simp only [Value.ofJson, textOrField, Json.view_object, htext]
  | password =>
    have htext := Json.Object.requiredString_congr (h "password" (by decide))
    simp only [Value.ofJson, textOrField, Json.view_object, htext]
  | user =>
    have hname := Json.Object.optionalString_congr (h "username" (by decide))
    have hpassword := Json.Object.optionalString_congr (h "password" (by decide))
    simp only [Value.ofJson, Json.asObject_eq_ok_iff.2 rfl, ok_bind, hname, hpassword]
  | ssh =>
    simp only [Value.ofJson, Json.asObject_eq_ok_iff.2 rfl, ok_bind, KeyPair.ofObject_congr h]
  | rsa =>
    simp only [Value.ofJson, Json.asObject_eq_ok_iff.2 rfl, ok_bind, KeyPair.ofObject_congr h]
  | certificate =>
    simp only [Value.ofJson, Json.asObject_eq_ok_iff.2 rfl, ok_bind, Certificate.ofObject_congr h]

namespace PayloadEdit

variable {o p : Json.Object}

theorem agreeOn (h : PayloadEdit o p) {keys : List String} (hkeys : "value" ∉ keys) :
    AgreeOn keys o p := by
  cases h with
  | intro hkind hvalue h => exact o.agreeOn_insert _ hkeys

/-- A change of the payload that cannot matter does not matter to the value. -/
theorem value_eq (h : PayloadEdit o p) {kind : Kind} (hkind : o.kind? = some kind) :
    Value.ofObject o kind = Value.ofObject p kind := by
  cases h with
  | @intro m n hother hvalue h =>
    -- Both payloads are objects, so neither counts as absent.
    have hnull (q : Json.Object) : Json.object q ≠ .null := fun hq => by
      cases Json.toJson_injective hq
    have hkeys : o.payloadKeys = kind.payloadKeys := by
      rw [Json.Object.payloadKeys, hkind]
      rfl
    have hn := Json.Object.get?_insert_self o "value" (.object n)
    rw [Value.ofObject, Value.ofObject, Json.Object.present?_eq_some_iff.2 ⟨hvalue, hnull m⟩,
      Json.Object.present?_eq_some_iff.2 ⟨hn, hnull n⟩]
    apply Value.ofJson_object_congr
    · rintro rfl
      exact hother hkind
    · rw [← hkeys]
      exact h.agreeOn

end PayloadEdit

/-! ## Lists -/

namespace EntryEdit

variable {key : String} {R : Json → Json → Prop} {o p : Json.Object}

theorem agreeOn (h : EntryEdit key R o p) {keys : List String} (hkeys : key ∉ keys) :
    AgreeOn keys o p := by
  cases h with
  | intro hlist h => exact o.agreeOn_insert _ hkeys

/-- Both objects have a list under the key, and reading one is reading the other. -/
theorem exists_lists (h : EntryEdit key R o p) {α : Type} {read : Json → Except Error α}
    (hread : ∀ x y, R x y → read x = read y) :
    ∃ xs ys, o.get? key = some (.array xs) ∧ p.get? key = some (.array ys) ∧
      xs.mapM read = ys.mapM read := by
  cases h with
  | @intro before after x y hlist h =>
    refine ⟨_, _, hlist, Json.Object.get?_insert_self _ _ _, ?_⟩
    rw [List.mapM_append, List.mapM_append, List.mapM_cons, List.mapM_cons, hread x y h]

end EntryEdit

/-! ## One change -/

/-- Of a stored credential only the members count that are read. -/
theorem Details.ofJson_object_congr {o p : Json.Object} {expected : Option Kind}
    (hrest : AgreeOn ["type", "id", "name", "version_created_at"] o p)
    (hvalue : ∀ k, o.kind? = some k → Value.ofObject o k = Value.ofObject p k) :
    Details.ofJson expected (.object o) = Details.ofJson expected (.object p) := by
  have hkind := Kind.ofObject_congr (hrest "type" (by simp)) expected
  have hid := Json.Object.requiredString_congr (hrest "id" (by simp))
  have hname := Name.ofObject_congr (hrest "name" (by simp))
  have hcreated := Json.Object.optionalInstant_congr (hrest "version_created_at" (by simp))
  rw [Details.ofJson, Details.ofJson, Json.asObject_eq_ok_iff.2 rfl, Json.asObject_eq_ok_iff.2 rfl]
  simp only [ok_bind]
  rw [← hkind, ← hid, ← hname, ← hcreated]
  -- The payload is looked at only once the type is known.
  cases hk : Kind.ofObject o expected with
  | error e => rfl
  | ok k =>
    simp only [ok_bind]
    rw [hvalue k (Json.Object.kind?_of_ofObject hk)]

/-- One change that cannot matter does not matter to reading a stored credential. -/
theorem Details.Edit.ofJson_eq {j j' : Json} (h : Details.Edit j j') (expected : Option Kind) :
    Details.ofJson expected j = Details.ofJson expected j' := by
  cases h with
  | envelope h =>
    have hagree := h.agreeOn
    apply Details.ofJson_object_congr
    · exact hagree.subset (by decide)
    · intro k _
      exact Value.ofObject_congr (hagree "value" (by decide)) k
  | payload h =>
    apply Details.ofJson_object_congr
    · exact h.agreeOn (by decide)
    · intro k hk
      exact h.value_eq hk

theorem Versions.ofJson_object (expected : Option Kind) (o : Json.Object) :
    Versions.ofJson expected (.object o) = (do
      let items ← o.requiredArray "data"
      return ⟨← items.mapM (Details.ofJson expected)⟩) := by
  rw [Versions.ofJson, Versions.items, Json.asObject_eq_ok_iff.2 rfl]
  rfl

/-- One change that cannot matter does not matter to reading a list of versions. -/
theorem Versions.Edit.ofJson_eq {j j' : Json} (h : Versions.Edit j j') (expected : Option Kind) :
    Versions.ofJson expected j = Versions.ofJson expected j' := by
  cases h with
  | envelope h =>
    rw [Versions.ofJson_object, Versions.ofJson_object, Json.Object.requiredArray,
      Json.Object.requiredArray, Json.Object.required_congr (h.agreeOn "data" (by decide))]
  | item h =>
    have hread (x y : Json) (hxy : Details.Edit x y) := hxy.ofJson_eq expected
    obtain ⟨xs, ys, hxs, hys, heq⟩ := h.exists_lists hread
    rw [Versions.ofJson_object, Versions.ofJson_object,
      Json.Object.requiredArray_eq_ok_iff.2 hxs, Json.Object.requiredArray_eq_ok_iff.2 hys, ok_bind,
      ok_bind, heq]

/-- One change that cannot matter does not matter to reading a permission. -/
theorem Permission.Edit.ofJson_eq {j j' : Json} (h : Permission.Edit j j') :
    Permission.ofJson j = Permission.ofJson j' := by
  cases h with
  | envelope h =>
    have hactor := Json.Object.requiredString_congr (h.agreeOn "actor" (by decide))
    rw [Permission.ofJson, Permission.ofJson, Json.asObject_eq_ok_iff.2 rfl,
      Json.asObject_eq_ok_iff.2 rfl, ok_bind, ok_bind, hactor, Json.Object.requiredArray,
      Json.Object.requiredArray, Json.Object.required_congr (h.agreeOn "operations" (by decide))]

/-- Of a request only the members count that are read. -/
theorem Request.ofJson_object_congr {o p : Json.Object}
    (hrest : AgreeOn ["type", "name", "overwrite"] o p)
    (hvalue : ∀ k, o.kind? = some k → Value.ofObject o k = Value.ofObject p k)
    (hpermissions : readPermissions o = readPermissions p) :
    Request.ofJson (.object o) = Request.ofJson (.object p) := by
  have hkind := Kind.ofObject_congr (hrest "type" (by simp)) none
  have hname := Name.ofObject_congr (hrest "name" (by simp))
  have hoverwrite := Json.Object.optionalBool_congr (hrest "overwrite" (by simp))
  rw [Request.ofJson, Request.ofJson, Draft.ofJson_object, Draft.ofJson_object, ← hkind, ← hname,
    ← hoverwrite, ← hpermissions]
  cases hk : Kind.ofObject o none with
  | error e => rfl
  | ok k =>
    simp only [ok_bind]
    rw [hvalue k (Json.Object.kind?_of_ofObject hk)]

/-- One change that cannot matter does not matter to reading a request. -/
theorem Request.Edit.ofJson_eq {j j' : Json} (h : Request.Edit j j') :
    Request.ofJson j = Request.ofJson j' := by
  cases h with
  | envelope h =>
    have hagree := h.agreeOn
    apply Request.ofJson_object_congr
    · exact hagree.subset (by decide)
    · intro k _
      exact Value.ofObject_congr (hagree "value" (by decide)) k
    · exact readPermissions_congr (hagree "additional_permissions" (by decide))
  | @payload o p h =>
    have hagree : AgreeOn ["type", "name", "overwrite", "additional_permissions"] o p :=
      h.agreeOn (by decide)
    apply Request.ofJson_object_congr
    · exact hagree.subset (by decide)
    · intro k hk
      exact h.value_eq hk
    · exact readPermissions_congr (hagree "additional_permissions" (by decide))
  | @permission o p h =>
    have hagree : AgreeOn ["type", "name", "overwrite", "value"] o p := h.agreeOn (by decide)
    apply Request.ofJson_object_congr
    · exact hagree.subset (by decide)
    · intro k _
      exact Value.ofObject_congr (hagree "value" (by decide)) k
    · have hread (x y : Json) (hxy : Permission.Edit x y) := hxy.ofJson_eq
      obtain ⟨xs, ys, hxs, hys, heq⟩ := h.exists_lists hread
      rw [readPermissions, readPermissions,
        Json.Object.optionalArray_eq_ok_iff.2 (.present hxs rfl),
        Json.Object.optionalArray_eq_ok_iff.2 (.present hys rfl)]
      exact heq

/-! ## Any number of changes -/

/-- The documents differ by changes that do not matter to the reader of stored credentials. -/
def Details.Alike : Json → Json → Prop := Relation.ReflTransGen Details.Edit

/-- The documents differ by changes that do not matter to the reader of lists of versions. -/
def Versions.Alike : Json → Json → Prop := Relation.ReflTransGen Versions.Edit

/-- The documents differ by changes that do not matter to the reader of requests. -/
def Request.Alike : Json → Json → Prop := Relation.ReflTransGen Request.Edit

/-- What each change leaves as it is, any number of changes does. -/
theorem eq_of_alike {α : Type} {R : Json → Json → Prop} {read : Json → α}
    (hread : ∀ x y, R x y → read x = read y) {j j' : Json} (h : Relation.ReflTransGen R j j') :
    read j = read j' := by
  induction h with
  | refl => rfl
  | tail _ hedit ih => exact ih.trans (hread _ _ hedit)

/-- What a JSON credential holds is its payload, member by member. -/
theorem PayloadOf.eq_json {m : Json.Object} {v : Value} (h : PayloadOf (.object m) v)
    (hkind : v.kind = .json) : v = .json m := by
  have hread := h.ofJson_eq
  rw [hkind, Value.ofJson, Json.object?_object] at hread
  exact (Except.ok.inj hread).symm

/-- Documents that differ only in the order of members, in members that the reader does not know and
in members that are null come to the same, be it accepted or refused; but a JSON credential holds
just what its payload holds. -/
theorem readers_ignore_edits (expected : Option Kind) (j j' : Json) :
    (Details.Alike j j' → Details.ofJson expected j = Details.ofJson expected j') ∧
      (Versions.Alike j j' → Versions.ofJson expected j = Versions.ofJson expected j') ∧
      (Request.Alike j j' → Request.ofJson j = Request.ofJson j') ∧
      ∀ o m, j = .object o → o.get? "type" = some (.string "json") →
        o.get? "value" = some (.object m) →
          (∀ d, Details.ofJson expected j = .ok d → d.value = .json m) ∧
            ∀ r, Request.ofJson j = .ok r → r.value = .json m := by
  refine ⟨?_, ?_, ?_, ?_⟩
  · exact eq_of_alike fun x y h => h.ofJson_eq expected
  · exact eq_of_alike fun x y h => h.ofJson_eq expected
  · exact eq_of_alike fun x y h => h.ofJson_eq
  rintro o m rfl htag hpayload
  have hvalue (v : Value) (hkind : o.get? "type" = some (.string v.kind.tag))
      (hv : ∃ x, o.get? "value" = some x ∧ PayloadOf x v) : v = .json m := by
    obtain ⟨x, hx, hv⟩ := hv
    rw [htag] at hkind
    obtain rfl := Option.some.inj (hpayload.symm.trans hx)
    exact hv.eq_json (Kind.tag_injective (Json.string_injective (Option.some.inj hkind)).symm)
  constructor
  · intro d hd
    obtain ⟨p, hp, h⟩ := Details.ofJson_eq_ok_iff.1 hd
    obtain rfl := Json.object_injective hp
    exact hvalue d.value h.kind h.value
  · intro r hr
    have h := Request.ofJson_object_eq_ok_iff.1 hr
    exact hvalue r.value h.kind h.value

/-- The payload of a credential for a user. -/
def userPayload : Json.Object := .ofFields [("username", some (.string "u"))]

/-- The same with a password that is null and a member that is not known. -/
def looseUserPayload : Json.Object :=
  .ofFields
    [("note", some (.bool true)), ("password", some .null), ("username", some (.string "u"))]

/-- A stored credential for a user, which might be requested as well. -/
def userMembers : Json.Object :=
  .ofFields
    [("id", some (.string "1")),
      ("name", some (.string "n")),
      ("type", some (.string "user")),
      ("value", some (.object userPayload))]

/-- The same with the other payload, with members that are null and in another order. -/
def looseUserMembers : Json.Object :=
  .ofFields
    [("overwrite", some .null),
      ("version_created_at", some .null),
      ("value", some (.object looseUserPayload)),
      ("type", some (.string "user")),
      ("name", some (.string "n")),
      ("id", some (.string "1"))]

theorem userPayload_similar : userPayload.Similar userMembers.payloadKeys looseUserPayload := by
  have hnull : Json.Object.Edit userMembers.payloadKeys userPayload
      (userPayload.insert "password" .null) := .add rfl (.inr rfl)
  have hunknown : Json.Object.Edit userMembers.payloadKeys (userPayload.insert "password" .null)
      ((userPayload.insert "password" .null).insert "note" (.bool true)) :=
    .add rfl (.inl (by decide))
  refine .head hnull (.head hunknown (.single (.reorder ?_)))
  exact (List.reverse_perm _).symm

theorem userMembers_similar {keys : List String} :
    (userMembers.insert "value" (.object looseUserPayload)).Similar keys looseUserMembers := by
  have htime : Json.Object.Edit keys (userMembers.insert "value" (.object looseUserPayload)) _ :=
    @Json.Object.Edit.add _ _ "version_created_at" _ rfl (.inr rfl)
  have hoverwrite : Json.Object.Edit keys _ _ :=
    @Json.Object.Edit.add _ ((userMembers.insert "value" (.object looseUserPayload)).insert
      "version_created_at" .null) "overwrite" _ rfl (.inr rfl)
  refine .head htime (.head hoverwrite (.single (.reorder ?_)))
  exact (List.reverse_perm _).symm

theorem userMembers_payloadEdit :
    PayloadEdit userMembers (userMembers.insert "value" (.object looseUserPayload)) :=
  .intro (by decide) rfl userPayload_similar

theorem userMembers_alike :
    Details.Alike (.object userMembers) (.object looseUserMembers) :=
  .head (.payload userMembers_payloadEdit) (.single (.envelope userMembers_similar))

def listOf (version : Json.Object) : Json.Object :=
  .ofFields [("data", some (.array [.object version]))]

theorem listOf_alike :
    Versions.Alike (.object (listOf userMembers)) (.object (listOf looseUserMembers)) := by
  have hpayload : EntryEdit "data" Details.Edit (listOf userMembers)
      (listOf (userMembers.insert "value" (.object looseUserPayload))) :=
    @EntryEdit.intro _ _ (listOf userMembers) [] [] _ _ rfl (.payload userMembers_payloadEdit)
  have henvelope : EntryEdit "data" Details.Edit
      (listOf (userMembers.insert "value" (.object looseUserPayload))) (listOf looseUserMembers) :=
    @EntryEdit.intro _ _ (listOf _) [] [] _ _ rfl (.envelope userMembers_similar)
  exact .head (.item hpayload) (.single (.item henvelope))

def granting (entry : Json.Object) : Json.Object :=
  userMembers.insert "additional_permissions" (.array [.object entry])

def grantMembers : Json.Object :=
  .ofFields [("actor", some (.string "uaa-user:u")), ("operations", some (.array [.string "read"]))]

theorem granting_alike : Request.Alike (.object (granting grantMembers))
    (.object (granting (grantMembers.insert "note" .null))) := by
  have hentry : Permission.Edit (.object grantMembers)
      (.object (grantMembers.insert "note" .null)) := .envelope (.single (.add rfl (.inr rfl)))
  exact .single (.permission (@EntryEdit.intro _ _ (granting grantMembers) [] [] _ _ rfl hentry))

/-- A JSON credential that holds null. -/
def nullMembers : Json.Object :=
  .ofFields
    [("id", some (.string "1")),
      ("name", some (.string "n")),
      ("type", some (.string "json")),
      ("value", some (.ofFields [("a", some .null)]))]

/-- Each of the readers overlooks members that it does not know and members with null. -/
theorem readers_ignore_loose_members :
    Details.ofJson (some .user) (.object userMembers) =
        Details.ofJson (some .user) (.object looseUserMembers) ∧
      Versions.ofJson (some .user) (.object (listOf userMembers)) =
        Versions.ofJson (some .user) (.object (listOf looseUserMembers)) ∧
      Request.ofJson (.object (granting grantMembers)) =
        Request.ofJson (.object (granting (grantMembers.insert "note" .null))) ∧
      ∃ d r, Details.ofJson none (.object nullMembers) = .ok d ∧
        Request.ofJson (.object nullMembers) = .ok r ∧
        d.value = .json (.ofFields [("a", some .null)]) ∧
        r.value = .json (.ofFields [("a", some .null)]) := by
  refine ⟨?_, ?_, ?_, _, _, rfl, rfl, ?_, ?_⟩
  · exact (readers_ignore_edits (some .user) _ _).1 userMembers_alike
  · exact (readers_ignore_edits (some .user) _ _).2.1 listOf_alike
  · exact (readers_ignore_edits none _ _).2.2.1 granting_alike
  · exact ((readers_ignore_edits none _ .null).2.2.2 nullMembers _ rfl rfl rfl).1 _ rfl
  · exact ((readers_ignore_edits none _ .null).2.2.2 nullMembers _ rfl rfl rfl).2 _ rfl

end Credentials
