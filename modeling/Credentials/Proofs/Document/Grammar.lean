import Credentials.Proofs.Document.Member
import Credentials.Proofs.Name

/-!
# The grammar of documents

`Describes` says what the members of a document have to be for it to describe a stored credential,
and `PayloadOf` the same of the value in it, without a word about how they are read. The readers
accept just these documents, with what they describe (`Value.ofJson_eq_ok_iff`,
`Details.ofJson_eq_ok_iff`), and `Versions.ofJson` the lists of them (`Versions.ofJson_eq_ok_iff`).
-/

namespace Credentials

open Json (IsText IsFlag IsMoment)

/-! ## The grammar -/

/-- A key of a key pair: an empty text stands for no key. -/
def IsKey (o : Json.Object) (key : String) (k : Option String) : Prop :=
  ∃ text, o.Optional key IsText text ∧ k = if text = some "" then none else text

/-- The members of the object hold a key pair. -/
structure IsKeyPair (o : Json.Object) (k : KeyPair) : Prop where
  publicKey : IsKey o "public_key" k.publicKey
  privateKey : IsKey o "private_key" k.privateKey

/-- The members of the object hold a certificate. -/
structure IsCertificate (o : Json.Object) (c : Certificate) : Prop where
  certificate : o.Optional "certificate" IsText c.certificate
  authority : o.Optional "certificate_authority" IsText c.authority
  privateKey : o.Optional "private_key" IsText c.privateKey
  authorityName : o.Optional "certificate_authority_name" IsText c.authorityName
  selfSigned : o.Optional "self_signed" IsFlag c.selfSigned
  generated : o.Optional "generated" IsFlag c.generated
  transitional : o.Optional "transitional" IsFlag c.transitional
  expiry : o.Optional "expiry_date" IsMoment c.expiry

/-- The document holds the value. -/
inductive PayloadOf : Json → Value → Prop
  | value (s : String) : PayloadOf (.string s) (.value s)
  | valueMember {o : Json.Object} {s : String} (h : o.get? "value" = some (.string s)) :
      PayloadOf (.object o) (.value s)
  | password (s : String) : PayloadOf (.string s) (.password s)
  | passwordMember {o : Json.Object} {s : String} (h : o.get? "password" = some (.string s)) :
      PayloadOf (.object o) (.password s)
  | json (o : Json.Object) : PayloadOf (.object o) (.json o)
  | user {o : Json.Object} {username password : Option String}
      (hu : o.Optional "username" IsText username) (hp : o.Optional "password" IsText password) :
      PayloadOf (.object o) (.user username password)
  | ssh {o : Json.Object} {k : KeyPair} (h : IsKeyPair o k) : PayloadOf (.object o) (.ssh k)
  | rsa {o : Json.Object} {k : KeyPair} (h : IsKeyPair o k) : PayloadOf (.object o) (.rsa k)
  | certificate {o : Json.Object} {c : Certificate} (h : IsCertificate o c) :
      PayloadOf (.object o) (.certificate c)

/-- The members of the object describe the stored credential, which is of the expected kind if there
is one. -/
structure Describes (expected : Option Kind) (o : Json.Object) (d : Details) : Prop where
  kind : o.get? "type" = some (.string d.kind.tag)
  expected : ∀ k ∈ expected, k = d.kind
  id : o.get? "id" = some (.string d.id)
  name : ∃ raw, o.get? "name" = some (.string raw) ∧ d.name.Normalizes raw
  value : ∃ j, o.get? "value" = some j ∧ PayloadOf j d.value
  createdAt : o.Optional "version_created_at" IsMoment d.createdAt

/-- The document describes the stored credential. -/
def IsDetails (expected : Option Kind) (j : Json) (d : Details) : Prop :=
  ∃ o, j = .object o ∧ Describes expected o d

/-- The document is an object with a list of items. -/
def HasItems (j : Json) (items : List Json) : Prop :=
  ∃ o, j = .object o ∧ o.get? "data" = some (.array items)

/-! ## Kind and name -/

/-- A kind is read from the tag under `type`, and has to be the one that is expected. -/
theorem Kind.ofObject_eq_ok_iff {o : Json.Object} {expected : Option Kind} {k : Kind} :
    Kind.ofObject o expected = .ok k ↔
      o.get? "type" = some (.string k.tag) ∧ ∀ e ∈ expected, e = k := by
  unfold Kind.ofObject
  rw [bind_eq_ok_iff]
  constructor
  · rintro ⟨tag, htag, h⟩
    rw [Json.Object.requiredString_eq_ok_iff] at htag
    split at h
    · cases h
    · rename_i kind hkind
      obtain rfl := Kind.ofTag?_eq_some_iff.1 hkind
      split at h
      · cases h
        exact ⟨htag, by simp⟩
      · rename_i e
        split at h
        · rename_i he
          cases h
          exact ⟨htag, by simpa using he⟩
        · cases h
  · rintro ⟨htag, hexpected⟩
    refine ⟨k.tag, Json.Object.requiredString_eq_ok_iff.2 htag, ?_⟩
    simp only [Kind.ofTag?_tag]
    cases expected with
    | none => rfl
    | some e => simp only [hexpected e rfl, if_true]; rfl

/-- A name is read from the text under `name`, which it normalizes. -/
theorem Name.ofObject_eq_ok_iff {o : Json.Object} {n : Name} :
    Name.ofObject o = .ok n ↔ ∃ raw, o.get? "name" = some (.string raw) ∧ n.Normalizes raw := by
  unfold Name.ofObject
  rw [bind_eq_ok_iff]
  constructor
  · rintro ⟨raw, hraw, h⟩
    split at h
    · rename_i m hm
      cases h
      exact ⟨raw, Json.Object.requiredString_eq_ok_iff.1 hraw, Name.ofString?_eq_some_iff.1 hm⟩
    · cases h
  · rintro ⟨raw, hraw, hn⟩
    refine ⟨raw, Json.Object.requiredString_eq_ok_iff.2 hraw, ?_⟩
    simp only [Name.ofString?_eq_some_iff.2 hn]
    rfl

/-! ## Values -/

/-- A text stands for itself, or is a member of an object. -/
theorem textOrField_eq_ok_iff {field s : String} {j : Json} :
    textOrField field j = .ok s ↔
      j = .string s ∨ ∃ o, j = .object o ∧ o.get? field = some (.string s) := by
  unfold textOrField
  constructor
  · intro h
    split at h
    · rename_i t hview
      cases h
      exact .inl (Json.view_eq_iff.1 hview)
    · rename_i o hview
      exact .inr ⟨o, Json.view_eq_iff.1 hview, Json.Object.requiredString_eq_ok_iff.1 h⟩
    · cases h
  · rintro (rfl | ⟨o, rfl, h⟩)
    · simp
    · simpa using Json.Object.requiredString_eq_ok_iff.2 h

theorem KeyPair.key_eq (k : Option String) : KeyPair.key k = if k = some "" then none else k := by
  cases k with
  | none => rfl
  | some s => by_cases h : s = "" <;> simp [KeyPair.key, h]

/-- A pair of keys is read as the grammar says. -/
theorem KeyPair.ofObject_eq_ok_iff {o : Json.Object} {k : KeyPair} :
    KeyPair.ofObject o = .ok k ↔ IsKeyPair o k := by
  unfold KeyPair.ofObject
  simp only [bind_eq_ok_iff, Json.Object.optionalString_eq_ok_iff]
  constructor
  · rintro ⟨publicKey, hpublic, privateKey, hprivate, h⟩
    cases h
    exact ⟨⟨publicKey, hpublic, KeyPair.key_eq _⟩, ⟨privateKey, hprivate, KeyPair.key_eq _⟩⟩
  · rintro ⟨⟨publicKey, hpublic, hk⟩, ⟨privateKey, hprivate, hk'⟩⟩
    refine ⟨publicKey, hpublic, privateKey, hprivate, congrArg Except.ok (KeyPair.ext ?_ ?_)⟩
    · rw [hk]
      exact KeyPair.key_eq _
    · rw [hk']
      exact KeyPair.key_eq _

/-- A certificate is read as the grammar says. -/
theorem Certificate.ofObject_eq_ok_iff {o : Json.Object} {c : Certificate} :
    Certificate.ofObject o = .ok c ↔ IsCertificate o c := by
  unfold Certificate.ofObject
  simp only [bind_eq_ok_iff, Json.Object.optionalString_eq_ok_iff,
    Json.Object.optionalBool_eq_ok_iff, Json.Object.optionalInstant_eq_ok_iff]
  constructor
  · rintro ⟨certificate, h₁, authority, h₂, privateKey, h₃, authorityName, h₄, selfSigned, h₅,
      generated, h₆, transitional, h₇, expiry, h₈, h⟩
    cases h
    exact ⟨h₁, h₂, h₃, h₄, h₅, h₆, h₇, h₈⟩
  · rintro ⟨h₁, h₂, h₃, h₄, h₅, h₆, h₇, h₈⟩
    exact ⟨_, h₁, _, h₂, _, h₃, _, h₄, _, h₅, _, h₆, _, h₇, _, h₈, rfl⟩

/-- What is read as a value of a kind is a payload of this kind. -/
theorem PayloadOf.of_ofJson {kind : Kind} {j : Json} {v : Value} (h : Value.ofJson kind j = .ok v) :
    v.kind = kind ∧ PayloadOf j v := by
  cases kind with
  | value =>
    obtain ⟨s, hs, h⟩ := bind_eq_ok_iff.1 h
    cases h
    rcases textOrField_eq_ok_iff.1 hs with rfl | ⟨o, rfl, hmember⟩
    · exact ⟨rfl, .value s⟩
    · exact ⟨rfl, .valueMember hmember⟩
  | json =>
    simp only [Value.ofJson] at h
    split at h
    · rename_i o ho
      cases h
      obtain rfl := Json.object?_eq_some_iff.1 ho
      exact ⟨rfl, .json o⟩
    · cases h
  | password =>
    obtain ⟨s, hs, h⟩ := bind_eq_ok_iff.1 h
    cases h
    rcases textOrField_eq_ok_iff.1 hs with rfl | ⟨o, rfl, hmember⟩
    · exact ⟨rfl, .password s⟩
    · exact ⟨rfl, .passwordMember hmember⟩
  | user =>
    simp only [Value.ofJson, bind_eq_ok_iff, Json.asObject_eq_ok_iff,
      Json.Object.optionalString_eq_ok_iff] at h
    obtain ⟨o, rfl, username, hu, password, hp, h⟩ := h
    cases h
    exact ⟨rfl, .user hu hp⟩
  | ssh =>
    simp only [Value.ofJson, bind_eq_ok_iff, Json.asObject_eq_ok_iff,
      KeyPair.ofObject_eq_ok_iff] at h
    obtain ⟨o, rfl, k, hk, h⟩ := h
    cases h
    exact ⟨rfl, .ssh hk⟩
  | rsa =>
    simp only [Value.ofJson, bind_eq_ok_iff, Json.asObject_eq_ok_iff,
      KeyPair.ofObject_eq_ok_iff] at h
    obtain ⟨o, rfl, k, hk, h⟩ := h
    cases h
    exact ⟨rfl, .rsa hk⟩
  | certificate =>
    simp only [Value.ofJson, bind_eq_ok_iff, Json.asObject_eq_ok_iff,
      Certificate.ofObject_eq_ok_iff] at h
    obtain ⟨o, rfl, c, hc, h⟩ := h
    cases h
    exact ⟨rfl, .certificate hc⟩

/-- A payload is read as the value that it is of. -/
theorem PayloadOf.ofJson_eq {j : Json} {v : Value} (h : PayloadOf j v) :
    Value.ofJson v.kind j = .ok v := by
  cases h with
  | value s =>
    exact bind_eq_ok_iff.2 ⟨s, textOrField_eq_ok_iff.2 (.inl rfl), rfl⟩
  | valueMember hmember =>
    exact bind_eq_ok_iff.2 ⟨_, textOrField_eq_ok_iff.2 (.inr ⟨_, rfl, hmember⟩), rfl⟩
  | password s =>
    exact bind_eq_ok_iff.2 ⟨s, textOrField_eq_ok_iff.2 (.inl rfl), rfl⟩
  | passwordMember hmember =>
    exact bind_eq_ok_iff.2 ⟨_, textOrField_eq_ok_iff.2 (.inr ⟨_, rfl, hmember⟩), rfl⟩
  | json o => simp [Value.kind, Value.ofJson]
  | user hu hp =>
    simp only [Value.kind, Value.ofJson, bind_eq_ok_iff, Json.asObject_eq_ok_iff,
      Json.Object.optionalString_eq_ok_iff]
    exact ⟨_, rfl, _, hu, _, hp, rfl⟩
  | ssh hk =>
    simp only [Value.kind, Value.ofJson, bind_eq_ok_iff, Json.asObject_eq_ok_iff,
      KeyPair.ofObject_eq_ok_iff]
    exact ⟨_, rfl, _, hk, rfl⟩
  | rsa hk =>
    simp only [Value.kind, Value.ofJson, bind_eq_ok_iff, Json.asObject_eq_ok_iff,
      KeyPair.ofObject_eq_ok_iff]
    exact ⟨_, rfl, _, hk, rfl⟩
  | certificate hc =>
    simp only [Value.kind, Value.ofJson, bind_eq_ok_iff, Json.asObject_eq_ok_iff,
      Certificate.ofObject_eq_ok_iff]
    exact ⟨_, rfl, _, hc, rfl⟩

/-- A document is read as a value of a kind exactly when it holds a value of that kind. -/
theorem Value.ofJson_eq_ok_iff {kind : Kind} {j : Json} {v : Value} :
    Value.ofJson kind j = .ok v ↔ v.kind = kind ∧ PayloadOf j v := by
  constructor
  · exact PayloadOf.of_ofJson
  · rintro ⟨rfl, h⟩
    exact h.ofJson_eq

theorem PayloadOf.ne_null {j : Json} {v : Value} (h : PayloadOf j v) : j ≠ .null := by
  rintro rfl
  generalize hj : Json.null = j at h
  cases h <;> cases Json.toJson_injective hj

/-- A value is read from its payload under `value`. -/
theorem Value.ofObject_eq_ok_iff {o : Json.Object} {kind : Kind} {v : Value} :
    Value.ofObject o kind = .ok v ↔
      v.kind = kind ∧ ∃ j, o.get? "value" = some j ∧ PayloadOf j v := by
  unfold Value.ofObject
  constructor
  · intro h
    split at h
    · rename_i j hj
      obtain ⟨hkind, hpayload⟩ := Value.ofJson_eq_ok_iff.1 h
      exact ⟨hkind, j, (Json.Object.present?_eq_some_iff.1 hj).1, hpayload⟩
    · cases h
  · rintro ⟨hkind, j, hj, hpayload⟩
    rw [Json.Object.present?_eq_some_iff.2 ⟨hj, hpayload.ne_null⟩]
    exact Value.ofJson_eq_ok_iff.2 ⟨hkind, hpayload⟩

/-! ## Stored credentials -/

/-- A document is read as a stored credential exactly when it is an object whose members describe
it. -/
theorem Details.ofJson_eq_ok_iff {expected : Option Kind} {j : Json} {d : Details} :
    Details.ofJson expected j = .ok d ↔ IsDetails expected j d := by
  unfold Details.ofJson
  simp only [bind_eq_ok_iff, Json.asObject_eq_ok_iff, Kind.ofObject_eq_ok_iff,
    Json.Object.requiredString_eq_ok_iff, Name.ofObject_eq_ok_iff, Value.ofObject_eq_ok_iff,
    Json.Object.optionalInstant_eq_ok_iff]
  constructor
  · rintro ⟨o, rfl, kind, ⟨htag, hexpected⟩, id, hid, name, hname, value, ⟨rfl, hvalue⟩, createdAt,
      hcreated, h⟩
    cases h
    exact ⟨o, rfl, htag, hexpected, hid, hname, hvalue, hcreated⟩
  · rintro ⟨o, rfl, h⟩
    exact ⟨o, rfl, _, ⟨h.kind, h.expected⟩, _, h.id, _, h.name, _, ⟨rfl, h.value⟩, _, h.createdAt,
      rfl⟩

/-- The items of a list stand in the array under `data`. -/
theorem Versions.items_eq_ok_iff {j : Json} {items : List Json} :
    Versions.items j = .ok items ↔ HasItems j items := by
  unfold Versions.items
  simp only [bind_eq_ok_iff, Json.asObject_eq_ok_iff, Json.Object.requiredArray_eq_ok_iff]
  rfl

/-- A document is read as versions exactly when it has a list of items that describe them in order.
-/
theorem Versions.ofJson_eq_ok_iff {expected : Option Kind} {j : Json} {vs : Versions} :
    Versions.ofJson expected j = .ok vs ↔
      ∃ items, HasItems j items ∧ List.Forall₂ (IsDetails expected) items vs.toList := by
  unfold Versions.ofJson
  simp only [bind_eq_ok_iff, Versions.items_eq_ok_iff, mapM_eq_ok_iff, Details.ofJson_eq_ok_iff]
  constructor
  · rintro ⟨items, hitems, ds, hds, h⟩
    cases h
    exact ⟨items, hitems, hds⟩
  · rintro ⟨items, hitems, hds⟩
    exact ⟨items, hitems, vs.toList, hds, rfl⟩

end Credentials
