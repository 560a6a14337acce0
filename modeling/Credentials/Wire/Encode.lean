import Credentials.Details
import Credentials.Instant.Rfc3339
import Credentials.Json.Fields
import Credentials.Request

/-!
# Documents for credentials

The JSON documents in which requests and stored credentials travel. A field that is not set is left out,
so outside the object of a JSON credential no null is written. Values and passwords travel as bare
strings, JSON credentials as they are, and the other kinds as objects of their fields.
-/

namespace Credentials

/-- A timestamp. -/
def Instant.toJson (i : Instant) : Json := .string i.render

/-- The object of a key pair. -/
def KeyPair.toJson (k : KeyPair) : Json :=
  .ofFields [("public_key", k.publicKey.map .string), ("private_key", k.privateKey.map .string)]

/-- The object of a certificate. -/
def Certificate.toJson (c : Certificate) : Json :=
  .ofFields
    [("certificate", c.certificate.map .string),
      ("certificate_authority", c.authority.map .string),
      ("private_key", c.privateKey.map .string),
      ("certificate_authority_name", c.authorityName.map .string),
      ("self_signed", c.selfSigned.map .bool),
      ("generated", c.generated.map .bool),
      ("transitional", c.transitional.map .bool),
      ("expiry_date", c.expiry.map Instant.toJson)]

/-- The document of a value. -/
def Value.toJson : Value → Json
  | .value s => .string s
  | .json o => .object o
  | .password s => .string s
  | .user u p => .ofFields [("username", u.map .string), ("password", p.map .string)]
  | .ssh k => k.toJson
  | .rsa k => k.toJson
  | .certificate c => c.toJson

/-- The document of a permission. -/
def Permission.toJson (p : Permission) : Json :=
  .ofFields
    [("actor", some (.string p.actor.text)),
      ("operations", some (.array (p.operations.map fun o => .string o.text)))]

/-- The document of a request. -/
def Request.toJson (r : Request) : Json :=
  .ofFields
    [("name", some (.string r.name.text)),
      ("type", some (.string r.kind.tag)),
      ("overwrite", some (.bool r.overwrite)),
      ("value", some r.value.toJson),
      ("additional_permissions",
        if r.permissions.isEmpty then none else some (.array (r.permissions.map Permission.toJson)))]

/-- The document of a stored credential. -/
def Details.toJson (d : Details) : Json :=
  .ofFields
    [("id", some (.string d.id)),
      ("name", some (.string d.name.text)),
      ("type", some (.string d.kind.tag)),
      ("value", some d.value.toJson),
      ("version_created_at", d.createdAt.map Instant.toJson)]

/-- The document of a list of versions. -/
def Versions.toJson (vs : Versions) : Json :=
  .ofFields [("data", some (.array (vs.toList.map Details.toJson)))]

end Credentials
