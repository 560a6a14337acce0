import Credentials.Json.Writer
import Credentials.Session.Documents
import Credentials.Text.Blank

/-!
# The client

A client turns calls about credentials into requests for a transport and reads the responses. Each call
makes one request, except that an identifier which could lead to another path is refused before. A
response counts only if its status is one of success.
-/

namespace Credentials

/-- A transport: sends a request and waits for the response. -/
abbrev Sender (σ : Type) := Http.Request → Run σ Http.Response

namespace Client

variable {σ : Type}

/-- The path under which credentials are kept. -/
def dataPath : String := "/api/v1/data"

/-- Whether a character may not stand in an identifier. -/
def isForbidden (c : Char) : Bool :=
  c == '/' || c == '?' || c == '#' || c == '%' || Text.isBlank c

/-- Whether an identifier may become a piece of a path. -/
def isAcceptedId (id : String) : Bool := !id.toList.isEmpty && !id.toList.any isForbidden

/-- The request that stores the credential of a document. -/
def storeRequest (document : Json) : Http.Request :=
  { method := .put, path := dataPath, body := some document }

/-- The request for a version of a credential. -/
def versionRequest (id : String) : Http.Request :=
  { method := .get, path := dataPath ++ "/" ++ id }

/-- A request about all versions of a credential. -/
def nameRequest (method : Http.Method) (name : Name) : Http.Request :=
  { method, path := dataPath, query := [("name", name.text)] }

/-- What the body of a refusing response says. -/
def refusal (body : Option Json) : String :=
  match body with
  | none => "no response body"
  | some j =>
    match j.view with
    | .string s => s
    | .object o => ((o.get? "error").bind Json.string?).getD j.compact
    | _ => j.compact

/-- Sends a request and refuses a response without success. -/
def exchange (send : Sender σ) (q : Http.Request) : Run σ Http.Response := do
  .log .client .debug "calling credhub" [("method", q.method.text), ("path", q.path)]
  let r ← send q
  if r.isSuccess then return r
  else
    .log .client .warn "credhub request failed"
      [("method", q.method.text), ("path", q.path), ("status", toString r.status)]
    .fail (.status r.status (refusal r.body))

/-- Sends a request whose response must have a body. -/
def fetch (send : Sender σ) (q : Http.Request) : Run σ Json := do
  match (← exchange send q).body with
  | some j => return j
  | none => .fail (.malformed .emptyBody)

/-- Stores a credential. -/
def write (send : Sender σ) (r : Request) : Run σ Details := do
  let document ← r.encode
  let body ← fetch send (storeRequest document)
  Details.decode (some r.kind) body

/-- Fetches a version of a credential. -/
def getById (send : Sender σ) (id : String) (expected : Option Kind) : Run σ Details :=
  if isAcceptedId id then do
    let body ← fetch send (versionRequest id)
    Details.decode expected body
  else .fail (.validation (.invalidId id))

/-- Fetches all versions of a credential. -/
def getByName (send : Sender σ) (name : Name) (expected : Option Kind) : Run σ Versions := do
  let body ← fetch send (nameRequest .get name)
  Versions.decode expected body

/-- Deletes all versions of a credential. -/
def deleteByName (send : Sender σ) (name : Name) : Run σ Unit := do
  let _ ← exchange send (nameRequest .delete name)
  return ()

end Client

end Credentials
