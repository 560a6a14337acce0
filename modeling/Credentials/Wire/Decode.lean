import Credentials.Details
import Credentials.Instant.Rfc3339
import Credentials.Json.Fields
import Credentials.Request

/-!
# Reading documents for credentials

`Details.ofJson`, `Versions.ofJson` and `Request.ofJson` read the documents that the server sends and
accepts. Members that are not known are ignored and null is the same as absent, since every member is
read through `Json.Object.present?`; only the object of a JSON credential is kept as it is. The first
fault, in the order in which the members are read, is the error.
-/

namespace Credentials

namespace Json

/-- The members of a document that has to be an object. -/
def asObject (subject : Subject) (j : Json) : Except Error Object :=
  match j.object? with
  | some o => .ok o
  | none => .error (.malformed (.notObject subject))

namespace Object

variable {α : Type}

/-- A member in the form that `f` takes, if it is there; in any other form it is a fault. -/
def optional (o : Object) (key : String) (f : Json → Option α) (fault : String → Malformation) :
    Except Error (Option α) :=
  match o.present? key with
  | none => .ok none
  | some j =>
    match f j with
    | some a => .ok (some a)
    | none => .error (.malformed (fault key))

/-- A member that has to be there in the form that `f` takes. -/
def required (o : Object) (key : String) (f : Json → Option α) (fault absent : String → Malformation) :
    Except Error α := do
  match ← o.optional key f fault with
  | some a => return a
  | none => .error (.malformed (absent key))

/-- A string, if it is there. -/
def optionalString (o : Object) (key : String) : Except Error (Option String) :=
  o.optional key string? .notString

/-- A string that has to be there. -/
def requiredString (o : Object) (key : String) : Except Error String :=
  o.required key string? .notString .missing

/-- A truth value, if it is there. -/
def optionalBool (o : Object) (key : String) : Except Error (Option Bool) :=
  o.optional key bool? .notBoolean

/-- A list, if it is there. -/
def optionalArray (o : Object) (key : String) : Except Error (Option (List Json)) :=
  o.optional key array? .notArray

/-- A list that has to be there. -/
def requiredArray (o : Object) (key : String) : Except Error (List Json) :=
  o.required key array? .notArray .notArray

/-- A timestamp, if it is there. -/
def optionalInstant (o : Object) (key : String) : Except Error (Option Instant) := do
  match ← o.optionalString key with
  | none => return none
  | some text =>
    match Instant.parse text with
    | .ok i => return some i
    | .error fault => .error (.malformed (.notTimestamp key fault))

end Object

end Json

open Json (asObject)

/-- The kind that a document names, which must be the expected one if there is one. -/
def Kind.ofObject (o : Json.Object) (expected : Option Kind) : Except Error Kind := do
  let tag ← o.requiredString "type"
  match Kind.ofTag? tag with
  | none => .error (.codec (.unknownKind tag))
  | some kind =>
    match expected with
    | none => return kind
    | some e => if e = kind then return kind else .error (.codec (.kindMismatch e kind))

/-- The name of a document. -/
def Name.ofObject (o : Json.Object) : Except Error Name := do
  match Name.ofString? (← o.requiredString "name") with
  | some name => return name
  | none => .error (.malformed .emptyName)

/-- A text that stands for itself or is a field of an object. -/
def textOrField (field : String) (j : Json) : Except Error String :=
  match j.view with
  | .string s => .ok s
  | .object o => o.requiredString field
  | _ => .error (.malformed (.payloadNotString field))

/-- The key pair that an object holds. -/
def KeyPair.ofObject (o : Json.Object) : Except Error KeyPair := do
  let publicKey ← o.optionalString "public_key"
  let privateKey ← o.optionalString "private_key"
  return .ofKeys publicKey privateKey

/-- The certificate that an object holds. -/
def Certificate.ofObject (o : Json.Object) : Except Error Certificate := do
  let certificate ← o.optionalString "certificate"
  let authority ← o.optionalString "certificate_authority"
  let privateKey ← o.optionalString "private_key"
  let authorityName ← o.optionalString "certificate_authority_name"
  let selfSigned ← o.optionalBool "self_signed"
  let generated ← o.optionalBool "generated"
  let transitional ← o.optionalBool "transitional"
  let expiry ← o.optionalInstant "expiry_date"
  return ⟨certificate, authority, privateKey, authorityName, selfSigned, generated, transitional,
    expiry⟩

/-- The value of a kind that a document holds. -/
def Value.ofJson (kind : Kind) (j : Json) : Except Error Value :=
  match kind with
  | .value => do return .value (← textOrField "value" j)
  | .password => do return .password (← textOrField "password" j)
  | .json =>
    match j.object? with
    | some o => .ok (.json o)
    | none => .error (.malformed .payloadNotObject)
  | .user => do
    let o ← asObject (.payload .user) j
    let username ← o.optionalString "username"
    let password ← o.optionalString "password"
    return .user username password
  | .ssh => do return .ssh (← KeyPair.ofObject (← asObject (.payload .ssh) j))
  | .rsa => do return .rsa (← KeyPair.ofObject (← asObject (.payload .rsa) j))
  | .certificate => do
    return .certificate (← Certificate.ofObject (← asObject (.payload .certificate) j))

/-- The value of a kind in the document around it. -/
def Value.ofObject (o : Json.Object) (kind : Kind) : Except Error Value :=
  match o.present? "value" with
  | some j => Value.ofJson kind j
  | none => .error (.malformed (.missing "value"))

/-- The stored credential that a document describes. -/
def Details.ofJson (expected : Option Kind) (j : Json) : Except Error Details := do
  let o ← asObject .credential j
  let kind ← Kind.ofObject o expected
  let id ← o.requiredString "id"
  let name ← Name.ofObject o
  let value ← Value.ofObject o kind
  let createdAt ← o.optionalInstant "version_created_at"
  return ⟨id, name, value, createdAt⟩

/-- The documents of the versions in a list. -/
def Versions.items (j : Json) : Except Error (List Json) := do
  let o ← asObject .credentialList j
  o.requiredArray "data"

/-- The versions that a document lists. -/
def Versions.ofJson (expected : Option Kind) (j : Json) : Except Error Versions := do
  let items ← Versions.items j
  return ⟨← items.mapM (Details.ofJson expected)⟩

/-- The operation that a document names. -/
def Operation.ofJson (j : Json) : Except Error Operation :=
  match j.string? with
  | some s => Operation.ofString s
  | none => .error (.malformed .operationNotString)

/-- The permission that a document describes. -/
def Permission.ofJson (j : Json) : Except Error Permission := do
  let o ← asObject .permission j
  let actor ← Actor.ofString (← o.requiredString "actor")
  let operations ← (← o.requiredArray "operations").mapM Operation.ofJson
  return (Permission.ofActor actor).allowAll operations

/-- The draft that a document describes. -/
def Draft.ofJson (j : Json) : Except Error Draft := do
  let o ← asObject .credentialRequest j
  let kind ← Kind.ofObject o none
  let name ← Name.ofObject o
  let value ← Value.ofObject o kind
  let overwrite ← o.optionalBool "overwrite"
  let permissions ← (← o.optionalArray "additional_permissions").getD [] |>.mapM Permission.ofJson
  return ⟨name, overwrite.getD false, some value, permissions⟩

/-- The request that a document describes. -/
def Request.ofJson (j : Json) : Except Error Request := do
  (← Draft.ofJson j).build

end Credentials
