import Credentials.Http.Url
import Credentials.Options.Basic
import Credentials.Session.Basic

/-!
# The world around a program

Files, the environment, the place for the user's configuration and the network. The world does not change
while a program runs; what the server answers is the supply of the run. What belongs to other programs is
taken as it is: which files hold certificates that can be used, whether a client gets a connection for a
URL, with the proxies, the names, the certificates and the time that this takes, and how a shell is told to
complete commands.
-/

namespace Credentials

/-- What becomes of the way to the server of a URL. -/
inductive Passage
  /-- Requests get to the server. -/
  | direct
  /-- Requests get to a proxy. -/
  | proxied
  /-- Nothing listens there. -/
  | refused
  /-- Something listens there, but no encrypted connection comes about. -/
  | untrusted
  /-- The connection takes too long. -/
  | late
deriving DecidableEq

/-- What a program finds around it. -/
structure World where
  /-- What a path leads to. -/
  look : String → Entry
  /-- The value of an environment variable. -/
  environment : String → Option String
  /-- The directory for configurations of the user. -/
  configHome : Option String
  /-- Whether what a file marks as certificates can be used as such. -/
  isCertificate : Content → Bool
  /-- The way to the server of a URL, for a client with these options that trusts the certificates in
  these files. -/
  passage : Options → List Content → Http.Url → Passage
  /-- The script that completes commands in the shell of this name. -/
  completions : String → String

namespace World

variable {σ : Type}

/-- A world in which there is nothing. -/
def empty : World where
  look _ := .absent .notFound
  environment _ := none
  configHome := none
  isCertificate _ := false
  passage _ _ _ := .refused
  completions _ := ""

/-- Opens a file and reads all of it. -/
def readContent (w : World) (path : String) : Run σ (Except FileError Content) := do
  .emit (.opened path)
  return (w.look path).content

/-- Opens a file and reads all of it as text. -/
def readText (w : World) (path : String) : Run σ (Except FileError String) := do
  .emit (.opened path)
  return (w.look path).readText

end World

end Credentials
