import Credentials.Error
import Credentials.Http.Scheme
import Credentials.Options.Basic
import Credentials.Text.Blank
import Credentials.Toml.Reader

/-!
# Configurations

Where the server is, which token it wants and how the client behaves. `Config.ofToml?` reads the sections
`server` and `client` of a TOML document; what is not known is ignored, what is missing has a default, and
a section may also be an array that gives its settings in order. `Config.fault?` says what is wrong with
the URL.
-/

namespace Credentials

/-- The configuration of a client. -/
structure Config where
  /-- The URL of the server. -/
  url : String := ""
  /-- The token that is sent with each request. -/
  token : Option String := none
  options : Options := {}

namespace Config

/-- The setting of a section by its name, or by its place among `names` if the section is an array. -/
def setting? (names : List String) (section? : Option Toml.Tree) (name : String) :
    Option (Option Toml.Tree) :=
  match section? with
  | none => some none
  | some (.table _ members) => some (members.lookup name)
  | some (.array items) => some ((names.zip items).lookup name)
  | some (.tables items) => some ((names.zip (items.map (.table .headed))).lookup name)
  | some .date => some none
  | some _ => none

/-- A text. -/
def text? : Toml.Tree → Option String
  | .string s => some s
  | _ => none

/-- A number of milliseconds. -/
def millis? : Toml.Tree → Option Duration
  | .integer n =>
    if h : 0 ≤ n ∧ n < 18446744073709551616 then some (.ofMillis n.toNat (by omega)) else none
  | _ => none

/-- A list of texts. -/
def texts? : Toml.Tree → Option (List String)
  | .array items => items.mapM text?
  | .tables [] => some []
  | _ => none

/-- A setting, which may be missing but not of another sort. -/
def optional {α : Type} (read : Toml.Tree → Option α) : Option Toml.Tree → Option (Option α)
  | none => some none
  | some t => (read t).map some

/-- The names of the settings of the server in order. -/
def serverNames : List String := ["url", "token"]

/-- The names of the settings of the client in order. -/
def clientNames : List String := ["connection_timeout_ms", "read_timeout_ms", "ca_cert_files"]

/-- The configuration that a document gives. -/
def ofToml? (root : Toml.Members) : Option Config := do
  let server := setting? serverNames (root.lookup "server")
  let client := setting? clientNames (root.lookup "client")
  let url ← optional text? (← server "url")
  let token ← optional text? (← server "token")
  let connectionTimeout ← optional millis? (← client "connection_timeout_ms")
  let readTimeout ← optional millis? (← client "read_timeout_ms")
  let certificateFiles ← optional texts? (← client "ca_cert_files")
  return ⟨url.getD "", token, ⟨connectionTimeout, readTimeout, certificateFiles⟩⟩

/-- What is wrong with the URL of a configuration. -/
def fault? (c : Config) : Option ConfigError :=
  let url := Text.trim c.url
  if url = "" then some .missingUrl
  else if Http.hasWebScheme url then none
  else some (.invalidUrl url)

/-- The document of a configuration. -/
def toJson (c : Config) : Json :=
  .ofFields
    [("server", some (.ofFields [("url", some (.string c.url)), ("token", c.token.map .string)])),
      ("client", some c.options.toJson)]

end Config

end Credentials
