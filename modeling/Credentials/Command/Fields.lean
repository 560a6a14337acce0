import Credentials.Value
import Credentials.World

/-!
# Values from arguments

`Fields.makeValue` makes the value of a credential from the arguments that belong to its kind and reads no
other. An argument that begins with `@` stands for the content of a file; the files are read in the order
of the fields, and the first that cannot be read is the error.
-/

namespace Credentials

/-- The arguments from which values are made. -/
structure Fields where
  value : Option String := none
  username : Option String := none
  password : Option String := none
  publicKey : Option String := none
  privateKey : Option String := none
  certificate : Option String := none
  ca : Option String := none
  caName : Option String := none
deriving DecidableEq

namespace Fields

variable {σ : Type}

/-- The text that an argument stands for. -/
def argumentText (w : World) (s : String) : Run σ String :=
  match s.toList with
  | '@' :: path => do
    let path := String.ofList path
    .log .arguments .debug "reading argument from file" [("path", path)]
    match ← w.readText path with
    | .ok text => return text
    | .error e => .fail (.file e)
  | _ => return s

/-- The text that an argument stands for, if it is given. -/
def text? (w : World) (argument : Option String) : Run σ (Option String) :=
  match argument with
  | none => return none
  | some s => do return some (← argumentText w s)

/-- The object that a JSON text is. -/
def jsonObject (text : String) : Except Error Json.Object :=
  match Json.read text with
  | .error e => .error (.codec (.notJson e))
  | .ok j =>
    match j.object? with
    | some o => .ok o
    | none => .error (.malformed .payloadNotObject)

/-- The value of a credential of some kind. -/
def makeValue (w : World) (kind : Kind) (f : Fields) : Run σ Value :=
  match kind with
  | .value => do return .value ((← text? w f.value).getD "")
  | .password => do return .password ((← text? w f.password).getD "")
  | .json => do
    let text := (← text? w f.value).getD "\x7b\x7d"
    return .json (← .ofExcept (jsonObject text))
  | .user => do
    let username ← text? w f.username
    let password ← text? w f.password
    return .user username password
  | .ssh => do
    let publicKey ← text? w f.publicKey
    let privateKey ← text? w f.privateKey
    return .ssh (.ofKeys publicKey privateKey)
  | .rsa => do
    let publicKey ← text? w f.publicKey
    let privateKey ← text? w f.privateKey
    return .rsa (.ofKeys publicKey privateKey)
  | .certificate => do
    let certificate ← text? w f.certificate
    let authority ← text? w f.ca
    let privateKey ← text? w f.privateKey
    let authorityName ← text? w f.caName
    return .certificate { certificate, authority, privateKey, authorityName }

end Fields

end Credentials
