import Credentials.Proofs.Document.Refusal

/-!
# Written credentials are read back

The document of a stored credential is read as the same credential, unless one of its times has a
year that does not take four digits: the writer puts down any year, the reader takes four digits
only. A value is read back whether it keeps the rules of presence or not. `Details.ofJson_toJson`
is the round trip of a credential, `Details.Loss` lists what can go wrong with it, and
`versions_read_back` puts both together for lists.
-/

namespace Credentials

/-! ## Values -/

/-- When a certificate expires. -/
def Value.expiry? : Value → Option Instant
  | .certificate c => c.expiry
  | _ => none

/-- A certificate expires in a year of four digits, if at all. -/
def Value.FourDigitYears (v : Value) : Prop := ∀ i ∈ v.expiry?, i.FourDigitYear

instance (v : Value) : Decidable v.FourDigitYears :=
  inferInstanceAs (Decidable (∀ i ∈ v.expiry?, i.FourDigitYear))

theorem Value.fourDigitYears_of_none {v : Value} (h : v.expiry? = none) : v.FourDigitYears := by
  intro i hi
  rw [h] at hi
  cases hi

theorem isKey_of_map {o : Json.Object} {key : String} {k : Option String}
    (h : o.get? key = k.map .string) (hne : k ≠ some "") : IsKey o key k :=
  ⟨k, Json.Object.optional_of_map h fun _ _ => rfl, by rw [if_neg hne]⟩

/-- A pair of keys is written as an object that is read as it. -/
theorem KeyPair.exists_toJson (k : KeyPair) : ∃ o, k.toJson = .object o ∧ IsKeyPair o k := by
  refine ⟨_, rfl, isKey_of_map ?_ k.publicKey_ne, isKey_of_map ?_ k.privateKey_ne⟩
  · exact Json.Object.get?_ofFields (by simp) "public_key"
  · exact Json.Object.get?_ofFields (by simp) "private_key"

/-- The members of the object are the fields of the certificate that are set. -/
structure Certificate.Writes (c : Certificate) (o : Json.Object) : Prop where
  certificate : o.get? "certificate" = c.certificate.map .string
  authority : o.get? "certificate_authority" = c.authority.map .string
  privateKey : o.get? "private_key" = c.privateKey.map .string
  authorityName : o.get? "certificate_authority_name" = c.authorityName.map .string
  selfSigned : o.get? "self_signed" = c.selfSigned.map .bool
  generated : o.get? "generated" = c.generated.map .bool
  transitional : o.get? "transitional" = c.transitional.map .bool
  expiry : o.get? "expiry_date" = c.expiry.map Instant.toJson

theorem Certificate.exists_toJson (c : Certificate) : ∃ o, c.toJson = .object o ∧ c.Writes o := by
  refine ⟨_, rfl, ?_⟩
  constructor <;> exact Json.Object.get?_ofFields (by simp) _

/-- A certificate is read back as it was unless the year of its end is lost. -/
theorem Certificate.Writes.ofObject {c : Certificate} {o : Json.Object} (h : c.Writes o) :
    Certificate.ofObject o =
      if ∀ i ∈ c.expiry, i.FourDigitYear then .ok c
      else .error (.malformed (.notTimestamp "expiry_date" .invalid)) := by
  have htext {key : String} {r : Option String} (h : o.get? key = r.map .string) :=
    Json.Object.optionalString_of_map h
  have hflag {key : String} {r : Option Bool} (h : o.get? key = r.map .bool) :=
    Json.Object.optionalBool_of_map h
  unfold Certificate.ofObject
  rw [htext h.certificate, htext h.authority, htext h.privateKey, htext h.authorityName,
    hflag h.selfSigned, hflag h.generated, hflag h.transitional,
    Json.Object.optionalInstant_of_map h.expiry]
  by_cases hyear : ∀ i ∈ c.expiry, i.FourDigitYear
  · rw [if_pos hyear, if_pos hyear]
    rfl
  · rw [if_neg hyear, if_neg hyear]
    rfl

/-- A value is written as a payload of it, unless a year is lost. -/
theorem PayloadOf.toJson {v : Value} (h : v.FourDigitYears) : PayloadOf v.toJson v := by
  cases v with
  | value s => exact .value s
  | json o => exact .json o
  | password s => exact .password s
  | user username password =>
    refine .user (Json.Object.optional_of_map ?_ fun _ _ => rfl)
      (Json.Object.optional_of_map ?_ fun _ _ => rfl)
    · exact Json.Object.get?_ofFields (by simp) "username"
    · exact Json.Object.get?_ofFields (by simp) "password"
  | ssh k =>
    obtain ⟨o, ho, hk⟩ := k.exists_toJson
    rw [Value.toJson, ho]
    exact .ssh hk
  | rsa k =>
    obtain ⟨o, ho, hk⟩ := k.exists_toJson
    rw [Value.toJson, ho]
    exact .rsa hk
  | certificate c =>
    obtain ⟨o, ho, hc⟩ := c.exists_toJson
    rw [Value.toJson, ho]
    exact .certificate (Certificate.ofObject_eq_ok_iff.1 (hc.ofObject.trans (if_pos h)))

/-- A value is read back exactly when its time can be, and is refused for that time otherwise. -/
theorem Value.ofJson_toJson (v : Value) :
    Value.ofJson v.kind v.toJson =
      if v.FourDigitYears then .ok v
      else .error (.malformed (.notTimestamp "expiry_date" .invalid)) := by
  by_cases hyears : v.FourDigitYears
  · rw [if_pos hyears]
    exact Value.ofJson_eq_ok_iff.2 ⟨rfl, .toJson hyears⟩
  · rw [if_neg hyears]
    -- Only a certificate has a time that can be out of range.
    cases v with
    | certificate c =>
      obtain ⟨o, ho, hc⟩ := c.exists_toJson
      simp only [Value.kind, Value.ofJson, Value.toJson, ho, Json.asObject_eq_ok_iff.2 rfl,
        hc.ofObject.trans (if_neg hyears), bind, Except.bind]
    | value _ | json _ | password _ | user _ _ | ssh _ | rsa _ =>
      exact absurd (Value.fourDigitYears_of_none rfl) hyears

/-- No value is written as null, which would count as absent. -/
theorem Value.toJson_ne_null (v : Value) : v.toJson ≠ .null := by
  rw [Ne, ← Json.isNull_iff]
  cases v <;> exact Bool.false_ne_true

/-- A value is read back as it was unless a year is lost. -/
theorem Value.ofObject_of_get? {o : Json.Object} {v : Value} (h : o.get? "value" = some v.toJson) :
    Value.ofObject o v.kind =
      if v.FourDigitYears then .ok v
      else .error (.malformed (.notTimestamp "expiry_date" .invalid)) := by
  unfold Value.ofObject
  rw [Json.Object.present?_eq_some_iff.2 ⟨h, v.toJson_ne_null⟩]
  exact v.ofJson_toJson

theorem Name.ofObject_of_get? {o : Json.Object} {n : Name}
    (h : o.get? "name" = some (.string n.text)) : Name.ofObject o = .ok n :=
  Name.ofObject_eq_ok_iff.2 ⟨n.text, h, Name.ofString?_eq_some_iff.1 n.ofString?_text⟩

/-! ## Stored credentials -/

/-- Every time in the credential is in a year of four digits. -/
def Details.FourDigitYears (d : Details) : Prop :=
  d.value.FourDigitYears ∧ ∀ i ∈ d.createdAt, i.FourDigitYear

instance (d : Details) : Decidable d.FourDigitYears :=
  inferInstanceAs (Decidable (_ ∧ ∀ i ∈ d.createdAt, i.FourDigitYear))

/-- The credential is of the expected kind, if there is one. -/
def Details.IsOfKind (d : Details) (expected : Option Kind) : Prop := ∀ k ∈ expected, k = d.kind

/-- Why the document of a stored credential is not read back: the kind is looked at before the value
and the value before the time of the version. -/
inductive Details.Loss (expected : Option Kind) (d : Details) : Error → Prop
  | kind {k : Kind} (hk : expected = some k) (hne : k ≠ d.kind) :
      Loss expected d (.codec (.kindMismatch k d.kind))
  | expiry (hk : d.IsOfKind expected) (h : ¬ d.value.FourDigitYears) :
      Loss expected d (.malformed (.notTimestamp "expiry_date" .invalid))
  | createdAt (hk : d.IsOfKind expected) (hv : d.value.FourDigitYears)
      (h : ¬ ∀ i ∈ d.createdAt, i.FourDigitYear) :
      Loss expected d (.malformed (.notTimestamp "version_created_at" .invalid))

/-- The members of the object are the fields of the stored credential that are set. -/
structure Details.Writes (d : Details) (o : Json.Object) : Prop where
  id : o.get? "id" = some (.string d.id)
  name : o.get? "name" = some (.string d.name.text)
  kind : o.get? "type" = some (.string d.kind.tag)
  value : o.get? "value" = some d.value.toJson
  createdAt : o.get? "version_created_at" = d.createdAt.map Instant.toJson

theorem Details.exists_toJson (d : Details) : ∃ o, d.toJson = .object o ∧ d.Writes o := by
  refine ⟨_, rfl, ?_⟩
  constructor <;> exact Json.Object.get?_ofFields (by simp) _

/-- A stored credential of the expected kind loses nothing but years, the one in its value first. -/
theorem Details.ofJson_toJson_of_isOfKind {expected : Option Kind} {d : Details}
    (hk : d.IsOfKind expected) :
    Details.ofJson expected d.toJson =
      if d.value.FourDigitYears then
        if ∀ i ∈ d.createdAt, i.FourDigitYear then .ok d
        else .error (.malformed (.notTimestamp "version_created_at" .invalid))
      else .error (.malformed (.notTimestamp "expiry_date" .invalid)) := by
  obtain ⟨o, ho, hd⟩ := d.exists_toJson
  have hkind : Kind.ofObject o expected = .ok d.kind := Kind.ofObject_eq_ok_iff.2 ⟨hd.kind, hk⟩
  have hid : o.requiredString "id" = .ok d.id := Json.Object.requiredString_eq_ok_iff.2 hd.id
  have hread : Details.ofJson expected d.toJson =
      Value.ofObject o d.kind >>= fun value =>
        (o.optionalInstant "version_created_at").map fun createdAt =>
          ⟨d.id, d.name, value, createdAt⟩ := by
    rw [ho, Details.ofJson, Json.asObject_eq_ok_iff.2 rfl]
    simp only [hkind, hid, Name.ofObject_of_get? hd.name, bind, Except.bind]
    rfl
  have hvalue : Value.ofObject o d.kind = _ := Value.ofObject_of_get? hd.value
  rw [hread, hvalue, Json.Object.optionalInstant_of_map hd.createdAt]
  by_cases hv : d.value.FourDigitYears
  · by_cases hc : ∀ i ∈ d.createdAt, i.FourDigitYear
    · simp only [if_pos hv, if_pos hc]
      rfl
    · simp only [if_pos hv, if_neg hc]
      rfl
  · simp only [if_neg hv]
    rfl

theorem Details.ofJson_toJson {expected : Option Kind} {d : Details} (hk : d.IsOfKind expected)
    (h : d.FourDigitYears) : Details.ofJson expected d.toJson = .ok d := by
  rw [Details.ofJson_toJson_of_isOfKind hk, if_pos h.1, if_pos h.2]

/-- A loss is noticed when the credential is read back. -/
theorem Details.Loss.ofJson_toJson {expected : Option Kind} {d : Details} {e : Error}
    (h : d.Loss expected e) : Details.ofJson expected d.toJson = .error e := by
  cases h with
  | kind hk hne =>
    obtain ⟨o, ho, hd⟩ := d.exists_toJson
    exact Details.ofJson_eq_kindMismatch_iff.2 ⟨⟨o, ho, hd.kind⟩, hk, hne⟩
  | expiry hk hv => rw [Details.ofJson_toJson_of_isOfKind hk, if_neg hv]
  | createdAt hk hv hc => rw [Details.ofJson_toJson_of_isOfKind hk, if_pos hv, if_neg hc]

/-- What is not read back has lost something. -/
theorem Details.exists_loss {expected : Option Kind} {d : Details}
    (h : ¬ (d.IsOfKind expected ∧ d.FourDigitYears)) : ∃ e, d.Loss expected e := by
  by_cases hk : d.IsOfKind expected
  · by_cases hv : d.value.FourDigitYears
    · exact ⟨_, .createdAt hk hv fun hc => h ⟨hk, hv, hc⟩⟩
    · exact ⟨_, .expiry hk hv⟩
  · cases expected with
    | none => exact absurd (fun k hk => by cases hk) hk
    | some k =>
      refine ⟨_, .kind rfl fun heq => hk ?_⟩
      intro l hl
      cases hl
      exact heq

/-- A stored credential is read back as it was exactly if it is of the expected kind and its years have
four digits. -/
theorem Details.ofJson_toJson_eq_ok_iff {expected : Option Kind} {d d' : Details} :
    Details.ofJson expected d.toJson = .ok d' ↔
      d' = d ∧ d.IsOfKind expected ∧ d.FourDigitYears := by
  constructor
  · intro hread
    by_cases h : d.IsOfKind expected ∧ d.FourDigitYears
    · rw [Details.ofJson_toJson h.1 h.2] at hread
      exact ⟨(Except.ok.inj hread).symm, h⟩
    · obtain ⟨e, he⟩ := Details.exists_loss h
      rw [he.ofJson_toJson] at hread
      cases hread
  · rintro ⟨rfl, hk, h⟩
    exact Details.ofJson_toJson hk h

/-- A stored credential is not read back exactly for its loss. -/
theorem Details.ofJson_toJson_eq_error_iff {expected : Option Kind} {d : Details} {e : Error} :
    Details.ofJson expected d.toJson = .error e ↔ d.Loss expected e := by
  constructor
  · intro hread
    have hnot : ¬ (d.IsOfKind expected ∧ d.FourDigitYears) := by
      rintro ⟨hk, h⟩
      rw [Details.ofJson_toJson hk h] at hread
      cases hread
    obtain ⟨e', he'⟩ := Details.exists_loss hnot
    rw [he'.ofJson_toJson] at hread
    cases hread
    exact he'
  · exact Details.Loss.ofJson_toJson

/-! ## Lists -/

/-- A list of versions is read back item by item. -/
theorem Versions.ofJson_toJson_eq (expected : Option Kind) (vs : Versions) :
    Versions.ofJson expected vs.toJson =
      ((vs.toList.map Details.toJson).mapM (Details.ofJson expected)).map Versions.mk := by
  have hitems : Versions.items vs.toJson = .ok (vs.toList.map Details.toJson) := by
    refine Versions.items_eq_ok_iff.2 ⟨_, rfl, ?_⟩
    exact Json.Object.get?_ofFields (by simp) _
  rw [Versions.ofJson, hitems]
  rfl

/-- A list of versions is read back as it was exactly if every item is. -/
theorem Versions.ofJson_toJson_eq_ok_iff {expected : Option Kind} {vs vs' : Versions} :
    Versions.ofJson expected vs.toJson = .ok vs' ↔
      vs' = vs ∧ ∀ d ∈ vs.toList, d.IsOfKind expected ∧ d.FourDigitYears := by
  obtain ⟨ds⟩ := vs
  obtain ⟨ds'⟩ := vs'
  rw [Versions.ofJson_toJson_eq, map_eq_ok_iff, Versions.mk.injEq,
    ← mapM_map_eq_ok_iff fun d d' => Details.ofJson_toJson_eq_ok_iff]
  simp

/-- A list of versions is not read back for the first item that has lost something. -/
theorem Versions.ofJson_toJson_eq_error_iff {expected : Option Kind} {vs : Versions} {e : Error} :
    Versions.ofJson expected vs.toJson = .error e ↔
      ∃ before d after, vs.toList = before ++ d :: after ∧
        (∀ a ∈ before, a.IsOfKind expected ∧ a.FourDigitYears) ∧ d.Loss expected e := by
  rw [Versions.ofJson_toJson_eq, map_eq_error_iff,
    mapM_map_eq_error_iff fun d d' => Details.ofJson_toJson_eq_ok_iff]
  simp only [Details.ofJson_toJson_eq_error_iff]

/-- Versions are read back, in their order, exactly when each is of the expected kind and has its
times in years of four digits; otherwise the first of them that is not so decides what goes wrong.
-/
theorem versions_read_back (expected : Option Kind) (vs : Versions) :
    (∀ vs', Versions.ofJson expected vs.toJson = .ok vs' ↔
      vs' = vs ∧ ∀ d ∈ vs.toList, d.IsOfKind expected ∧ d.FourDigitYears) ∧
      ∀ e, Versions.ofJson expected vs.toJson = .error e ↔
        ∃ before d after, vs.toList = before ++ d :: after ∧
          (∀ a ∈ before, a.IsOfKind expected ∧ a.FourDigitYears) ∧ d.Loss expected e :=
  ⟨fun _ => Versions.ofJson_toJson_eq_ok_iff, fun _ => Versions.ofJson_toJson_eq_error_iff⟩

end Credentials
