import Credentials.Config.Basic
import Credentials.World

/-!
# Finding the configuration

`Config.load` reads the first file there is: the one that was asked for and no other, or else
`credhub.toml` in the working directory, or else the one of the user. The environment overrides the URL
and the token. A configuration without a URL is none.
-/

namespace Credentials.Config

variable {σ : Type}

/-- The name of a configuration file. -/
def fileName : String := "credhub.toml"

/-- The variable that overrides the URL. -/
def urlVariable : String := "CREDHUB_URL"

/-- The variable that overrides the token. -/
def tokenVariable : String := "CREDHUB_TOKEN"

/-- Where the configuration of the user is. -/
def userPath (w : World) : Option String := w.configHome.map fun d => d ++ "/credhub/" ++ fileName

/-- Reads a configuration file. -/
def ofFile (w : World) (path : String) : Run σ Config := do
  .log .configuration .debug "loading config" [("path", path)]
  match ← w.readText path with
  | .error e => .fail (.config (.unreadable e))
  | .ok text =>
    match (Toml.read? text).bind ofToml? with
    | none => .fail (.config .unparsable)
    | some c =>
      .log .configuration .debug "config loaded" [("url", c.url)]
      return c

/-- The path of the first file there is. -/
def locate (w : World) (explicit : Option String) : Option String :=
  let candidates :=
    match explicit with
    | some path => [path]
    | none => fileName :: (userPath w).toList
  candidates.find? fun path => (w.look path).isPresent

/-- The configuration before the environment counts. -/
def stored (w : World) (explicit : Option String) : Run σ Config :=
  match locate w explicit with
  | some path => ofFile w path
  | none => if explicit.isSome then .fail (.config .notFound) else return {}

/-- The configuration with what the environment overrides. -/
def override (w : World) (c : Config) : Config :=
  { c with
    url := (w.environment urlVariable).getD c.url
    token := (w.environment tokenVariable) <|> c.token }

/-- Finds and checks the configuration. -/
def load (w : World) (explicit : Option String) : Run σ Config := do
  let c ← stored w explicit
  if (w.environment urlVariable).isSome then
    .log .configuration .debug "server url overridden from environment" []
  let c := override w c
  if c.url = "" then .fail (.config .notFound)
  else
    match c.fault? with
    | some e => .fail (.config e)
    | none => return c

end Credentials.Config
