import Credentials.Session.Basic
import Credentials.Wire.Decode
import Credentials.Wire.Encode

/-!
# Documents in the log

Making a request, writing its document and reading a stored credential leave a line in the log, which
names the credential and its kind and never its value. Apart from the log these are `Draft.build`,
`Request.toJson`, `Details.ofJson`, `Versions.ofJson` and `Request.ofJson`.
-/

namespace Credentials

variable {σ : Type}

/-- Makes the request that a draft describes. -/
def Draft.make (d : Draft) : Run σ Request := do
  let r ← .ofExcept d.build
  .log .requests .debug "credential request built"
    [("name", r.name.text), ("kind", r.kind.tag), ("overwrite", boolText r.overwrite),
      ("permissions", toString r.permissions.length)]
  return r

/-- Writes the document of a request. -/
def Request.encode (r : Request) : Run σ Json := do
  .log .documents .debug "encoded credential request" [("name", r.name.text), ("kind", r.kind.tag)]
  return r.toJson

/-- Reads the document of a request. -/
def Request.decode (j : Json) : Run σ Request := do
  (← .ofExcept (Draft.ofJson j)).make

/-- Reads the document of a stored credential. -/
def Details.decode (expected : Option Kind) (j : Json) : Run σ Details := do
  let d ← .ofExcept (Details.ofJson expected j)
  .log .documents .debug "decoded credential" [("id", d.id), ("name", d.name.text), ("kind", d.kind.tag)]
  return d

/-- Reads documents of stored credentials one after the other. -/
def Details.decodeAll (expected : Option Kind) : List Json → Run σ (List Details)
  | [] => return []
  | j :: js => do
    let d ← Details.decode expected j
    let ds ← decodeAll expected js
    return d :: ds

/-- Reads the document of a list of versions. -/
def Versions.decode (expected : Option Kind) (j : Json) : Run σ Versions := do
  let items ← .ofExcept (Versions.items j)
  return ⟨← Details.decodeAll expected items⟩

end Credentials
