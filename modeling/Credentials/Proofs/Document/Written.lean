import Credentials.Proofs.Document.Text
import Credentials.Proofs.Json.Path

/-!
# What a document says

The document of a request lists what is set and nothing else: its members and those of its value stand
in a fixed order, and a field that is not set has no member (`Value.Writes`, `Permission.Writes`). So a
null in it can only come from the object of a JSON credential. Main statement:
`request_says_what_is_set`.
-/

namespace Credentials

/-! ## Members that are set -/

/-- The fields that are set, in their order. -/
def Json.presentMembers (fields : List (String × Option Json)) : List (String × Json) :=
  fields.filterMap fun f => f.2.map fun j => (f.1, j)

/-- How a value and its type are written. -/
inductive Value.Writes : Value → String → Json → Prop
  | value (s : String) : Writes (.value s) "value" (.string s)
  | json (o : Json.Object) : Writes (.json o) "json" (.object o)
  | password (s : String) : Writes (.password s) "password" (.string s)
  | user {u p : Option String} {o : Json.Object} :
      o.toList = Json.presentMembers [("username", u.map .string), ("password", p.map .string)] →
        Writes (.user u p) "user" (.object o)
  | ssh {k : KeyPair} {o : Json.Object} :
      o.toList = Json.presentMembers
        [("public_key", k.publicKey.map .string), ("private_key", k.privateKey.map .string)] →
        Writes (.ssh k) "ssh" (.object o)
  | rsa {k : KeyPair} {o : Json.Object} :
      o.toList = Json.presentMembers
        [("public_key", k.publicKey.map .string), ("private_key", k.privateKey.map .string)] →
        Writes (.rsa k) "rsa" (.object o)
  | certificate {c : Certificate} {o : Json.Object} :
      o.toList = Json.presentMembers
        [("certificate", c.certificate.map .string),
          ("certificate_authority", c.authority.map .string),
          ("private_key", c.privateKey.map .string),
          ("certificate_authority_name", c.authorityName.map .string),
          ("self_signed", c.selfSigned.map .bool),
          ("generated", c.generated.map .bool),
          ("transitional", c.transitional.map .bool),
          ("expiry_date", c.expiry.map fun i => .string i.render)] →
        Writes (.certificate c) "certificate" (.object o)

/-- How a permission is written. -/
inductive Permission.Writes (p : Permission) : Json → Prop
  | mk {o : Json.Object} :
      o.toList = [("actor", .string p.actor.text),
        ("operations", .array (p.operations.map fun op => .string op.text))] →
        p.Writes (.object o)

/-- An object of fields has the members that are set, in the order of the fields. -/
theorem Json.toList_ofFields_eq {fields : List (String × Option Json)}
    (h : (fields.map Prod.fst).Nodup) : (Object.ofFields fields).toList = presentMembers fields :=
  Object.toList_ofFields h

/-- A value is written as its kind has it. -/
theorem Value.writes_toJson (v : Value) : v.Writes v.kind.tag v.toJson := by
  cases v with
  | value s => exact .value s
  | json o => exact .json o
  | password s => exact .password s
  | user u p => exact .user (Json.toList_ofFields_eq (by simp))
  | ssh k => exact .ssh (Json.toList_ofFields_eq (by simp))
  | rsa k => exact .rsa (Json.toList_ofFields_eq (by simp))
  | certificate c => exact .certificate (Json.toList_ofFields_eq (by simp))

/-- A permission is written as its actor and its operations, in their order. -/
theorem Permission.writes_toJson (p : Permission) : p.Writes p.toJson :=
  .mk (Json.toList_ofFields_eq (by simp))

/-- The members of a request, of which only the permissions may be missing. -/
theorem Request.toList_toJson (r : Request) : ∃ o, r.toJson = .object o ∧
    o.toList =
      [("name", .string r.name.text), ("type", .string r.kind.tag), ("overwrite", .bool r.overwrite),
        ("value", r.value.toJson)] ++
      (if r.permissions = [] then []
        else [("additional_permissions", .array (r.permissions.map Permission.toJson))]) := by
  refine ⟨_, rfl, (Json.toList_ofFields_eq (by simp)).trans ?_⟩
  cases r.permissions <;> rfl

/-! ## Nulls -/

theorem Json.IsPlain.nullFree {j : Json} (h : j.IsPlain) : j.NullFree := by
  cases h with
  | string s => exact Json.nullFree_string s
  | bool b => exact Json.nullFree_bool b

theorem Json.IsSimple.nullFree {j : Json} (h : j.IsSimple) : j.NullFree := by
  cases h with
  | plain h => exact h.nullFree
  | ofFields h hplain =>
    refine Json.nullFree_ofFields h ?_
    intro f hf j hj
    exact (hplain f hf j hj).nullFree

/-- No null stands in the document of a permission. -/
theorem Permission.nullFree_toJson (p : Permission) : p.toJson.NullFree := by
  refine Json.nullFree_ofFields (by simp) ?_
  simp only [List.forall_mem_cons, Option.mem_some_iff, forall_eq']
  refine ⟨Json.nullFree_string _, Json.nullFree_array ?_, nofun⟩
  rw [List.forall_mem_map]
  intro op _
  exact Json.nullFree_string _

/-- A null in a payload is one that the JSON credential has itself. -/
theorem Value.at?_toJson_eq_null_iff {v : Value} {path : List Json.PathStep} :
    v.toJson.at? path = some .null ↔ ∃ o, v = .json o ∧ (Json.object o).at? path = some .null := by
  constructor
  · intro hnull
    cases v with
    | json o => exact ⟨o, rfl, hnull⟩
    | _ => exact absurd hnull ((Value.isSimple_toJson rfl).nullFree path)
  · rintro ⟨o, rfl, hnull⟩
    exact hnull

/-- No member of a request but the value can hold a null. -/
theorem Request.nullFree_or_eq_value {r : Request} {o : Json.Object} (h : r.toJson = .object o)
    {m : String × Json} (hm : m ∈ o.toList) : m.2.NullFree ∨ m = ("value", r.value.toJson) := by
  obtain ⟨members, hjson, hmembers⟩ := r.toList_toJson
  obtain rfl := Json.object_injective (hjson.symm.trans h)
  rw [hmembers, List.mem_append] at hm
  rcases hm with hm | hm
  · simp only [List.mem_cons, List.not_mem_nil, or_false] at hm
    obtain rfl | rfl | rfl | rfl := hm
    · exact .inl (Json.nullFree_string _)
    · exact .inl (Json.nullFree_string _)
    · exact .inl (Json.nullFree_bool _)
    · exact .inr rfl
  · left
    split at hm
    · cases hm
    · rw [List.mem_singleton.1 hm]
      refine Json.nullFree_array ?_
      rw [List.forall_mem_map]
      exact fun p _ => p.nullFree_toJson

/-- A null stands in the document of a request where one stands in the object of its value. -/
theorem Request.at?_toJson_eq_null_iff {r : Request} {path : List Json.PathStep} :
    r.toJson.at? path = some .null ↔
      ∃ o rest, r.value = .json o ∧ path = .member "value" :: rest ∧
        (Json.object o).at? rest = some .null := by
  obtain ⟨members, hjson, hmembers⟩ := r.toList_toJson
  constructor
  · intro hnull
    cases path with
    | nil =>
      rw [hjson, Json.at?_nil, Option.some.injEq] at hnull
      simp [← Json.isNull_iff, Json.isNull] at hnull
    | cons step rest =>
      cases step with
      | item place =>
        obtain ⟨items, -, harray, -⟩ := Json.at?_item_eq_some_iff.1 hnull
        rw [hjson] at harray
        simp [← Json.array?_eq_some_iff, Json.array?] at harray
      | member key =>
        obtain ⟨o, j, hobject, hmem, hnull⟩ := Json.at?_member_eq_some_iff.1 hnull
        rcases Request.nullFree_or_eq_value hobject hmem with hfree | hvalue
        · exact absurd hnull (hfree rest)
        · obtain ⟨rfl, rfl⟩ := Prod.mk.inj hvalue
          obtain ⟨object, hkind, hnull⟩ := Value.at?_toJson_eq_null_iff.1 hnull
          exact ⟨object, rest, hkind, rfl, hnull⟩
  · rintro ⟨o, rest, hobject, rfl, hnull⟩
    refine Json.at?_member_eq_some_iff.2 ⟨members, r.value.toJson, hjson, by simp [hmembers], ?_⟩
    exact Value.at?_toJson_eq_null_iff.2 ⟨o, hobject, hnull⟩

/-! ## Requests -/

/-- The document of a request is an object of its name, the type of its value, whether it overwrites,
its value and, if there are any, its permissions; a key given as the empty text is not there, and a
null is there only where one stands in the object of a JSON credential. -/
theorem request_says_what_is_set (r : Request) :
    ∃ o tag value grants, r.toJson = .object o ∧
      o.toList =
        [("name", .string r.name.text), ("type", .string tag), ("overwrite", .bool r.overwrite),
          ("value", value)] ++
        (if r.permissions = [] then [] else [("additional_permissions", .array grants)]) ∧
      IsCanonical r.name.text ∧
      r.value.Writes tag value ∧
      r.permissions.Forall₂ Permission.Writes grants ∧
      (∀ p q, (r.value = .ssh (.ofKeys p q) ∨ r.value = .rsa (.ofKeys p q)) →
        ∃ keys, value = .object keys ∧
          keys.toList = Json.presentMembers
            [("public_key", (p.filter (· ≠ "")).map .string),
              ("private_key", (q.filter (· ≠ "")).map .string)]) ∧
      ∀ path, r.toJson.at? path = some .null ↔
        ∃ object rest, r.value = .json object ∧ path = .member "value" :: rest ∧
          (Json.object object).at? rest = some .null := by
  obtain ⟨o, hjson, hmembers⟩ := r.toList_toJson
  refine ⟨o, r.kind.tag, r.value.toJson, r.permissions.map Permission.toJson, hjson, hmembers,
    r.name.canonical, r.value.writes_toJson, ?_, ?_, fun path => Request.at?_toJson_eq_null_iff⟩
  · rw [List.forall₂_map_right_iff, List.forall₂_same]
    exact fun p _ => p.writes_toJson
  · intro p q hkeys
    -- `KeyPair.ofKeys` leaves out empty keys, so both kinds come down to the fields it leaves.
    refine ⟨_, ?_, Json.toList_ofFields_eq (by simp)⟩
    rcases hkeys with hkeys | hkeys <;> rw [hkeys] <;> rfl

/-- A key pair of which the private key is given as the empty text. -/
def emptyKeyRequest : Request where
  name := ⟨"/k", isCanonical_k⟩
  overwrite := false
  value := .ssh (.ofKeys (some "p") (some ""))
  permissions := []
  valid := rfl

/-- Of two keys of which one is empty the other is all that is written. -/
theorem emptyKeyRequest_says_public_key :
    ∃ o keys, emptyKeyRequest.toJson = .object o ∧ ("value", .object keys) ∈ o.toList ∧
      keys.toList = [("public_key", .string "p")] := by
  obtain ⟨o, tag, value, grants, hjson, hmembers, -, -, -, hkeys, -⟩ :=
    request_says_what_is_set emptyKeyRequest
  obtain ⟨keys, rfl, htoList⟩ := hkeys (some "p") (some "") (.inl rfl)
  exact ⟨o, keys, hjson, by simp [hmembers], htoList⟩

end Credentials
