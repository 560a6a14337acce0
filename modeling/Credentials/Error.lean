import Credentials.Files.Basic
import Credentials.Instant.Rfc3339
import Credentials.Json.Reader
import Credentials.Kind

/-!
# What may go wrong

An `Error` is a cause: a broken rule for credentials, a document that cannot be decoded, a failure of
the transport, a missing or wrong configuration, an answer of the server that refuses, or a file that
cannot be read. `Error.message` words it.
-/

namespace Credentials

/-- Why a text is no permission. -/
inductive PermissionFault
  | noColon
  | emptyId
  | unknownActor
  | unknownOperation
  | noEquals
  | noOperations
deriving DecidableEq

/-- The wording of what is wrong with a permission. -/
def PermissionFault.message : PermissionFault → String
  | noColon => "expected <type>:<id>"
  | emptyId => "actor id is empty"
  | unknownActor => "unknown actor type"
  | unknownOperation => "unknown operation"
  | noEquals => "expected <actor>=<operations>"
  | noOperations => "no operations given"

/-- A rule for credentials that is broken. -/
inductive ValidationError
  | emptyName
  | missingName
  | missingValue
  | emptyField (kind : Kind) (field : String)
  | noKeys (kind : Kind)
  | invalidId (id : String)
  | invalidPermission (input : String) (fault : PermissionFault)
deriving DecidableEq

/-- The wording of a broken rule. -/
def ValidationError.message : ValidationError → String
  | emptyName => "credential name must not be empty"
  | missingName => "credential name is required"
  | missingValue => "credential value is required"
  | emptyField kind field => kind.tag ++ " credential: " ++ field ++ " must not be empty"
  | noKeys kind => kind.tag ++ " credential: at least one of public_key/private_key must be set"
  | invalidId id =>
    "invalid credential id '" ++ id
      ++ "': must be non-empty without '/', '?', '#', '%' or whitespace"
  | invalidPermission input fault =>
    "invalid permission '" ++ input ++ "': " ++ fault.message

/-- The things that documents are about. -/
inductive Subject
  | credential
  | credentialList
  | credentialRequest
  | permission
  | payload (kind : Kind)
deriving DecidableEq

/-- How a subject is called. -/
def Subject.text : Subject → String
  | credential => "credential"
  | credentialList => "credential list"
  | credentialRequest => "credential request"
  | permission => "permission"
  | payload kind => kind.tag ++ " credential value"

/-- What is wrong with the shape of a document. -/
inductive Malformation
  | notObject (subject : Subject)
  | missing (key : String)
  | notString (key : String)
  | notBoolean (key : String)
  | notArray (key : String)
  | notTimestamp (key : String) (fault : Instant.ParseError)
  | emptyName
  | payloadNotString (field : String)
  | payloadNotObject
  | operationNotString
  | emptyBody
deriving DecidableEq

/-- The wording of what is wrong with a document. -/
def Malformation.message : Malformation → String
  | notObject subject => subject.text ++ " must be a JSON object"
  | missing key => "missing '" ++ key ++ "'"
  | notString key => "'" ++ key ++ "' must be a string"
  | notBoolean key => "'" ++ key ++ "' must be a boolean"
  | notArray key => "'" ++ key ++ "' must be an array"
  | notTimestamp key fault => "'" ++ key ++ "' is not an RFC 3339 timestamp: " ++ fault.message
  | emptyName => "invalid 'name': " ++ ValidationError.emptyName.message
  | payloadNotString field => "'" ++ field ++ "' credential value must be a string"
  | payloadNotObject => "json credential value must be an object"
  | operationNotString => "operation must be a string"
  | emptyBody => "empty response body"

/-- Why a document cannot be decoded. -/
inductive CodecError
  | unknownKind (tag : String)
  | kindMismatch (expected actual : Kind)
  | malformed (what : Malformation)
  | notJson (fault : Json.SyntaxError)
deriving DecidableEq

/-- The wording of why a document cannot be decoded. -/
def CodecError.message : CodecError → String
  | unknownKind tag => "unknown credential type: " ++ tag
  | kindMismatch expected actual =>
    "credential type mismatch: expected " ++ expected.tag ++ ", got " ++ actual.tag
  | malformed what => "malformed payload: " ++ what.message
  | notJson fault => "json error: " ++ fault.message

/-- Why a request got no answer. -/
inductive TransportError
  | connect (detail : String)
  | timeout (detail : String)
  | certificate (path : String) (reason : String)
  | invalidUrl (url : String)
  | http (detail : String)
deriving DecidableEq

/-- The wording of why a request got no answer. -/
def TransportError.message : TransportError → String
  | connect detail => "connection failed: " ++ detail
  | timeout detail => "request timed out: " ++ detail
  | certificate path reason => "failed to load CA certificate " ++ path ++ ": " ++ reason
  | invalidUrl url => "invalid base url: " ++ url
  | http detail => "http error: " ++ detail

/-- What is wrong with the configuration. -/
inductive ConfigError
  | notFound
  | unreadable (error : FileError)
  | unparsable
  | missingUrl
  | invalidUrl (url : String)
deriving DecidableEq

/-- The setting that holds the address of the server. -/
def urlSetting : String := "server.url"

/-- The wording of what is wrong with the configuration. -/
def ConfigError.message : ConfigError → String
  | notFound => "no configuration found: create credhub.toml or set CREDHUB_URL"
  | unreadable error => "failed to read config: " ++ error.message
  | unparsable => "failed to parse config: invalid TOML"
  | missingUrl => "missing required field: " ++ urlSetting
  | invalidUrl url =>
    "invalid value for " ++ urlSetting ++ ": expected an http(s) URL, got '" ++ url ++ "'"

/-- A cause of failure. -/
inductive Error
  | validation (e : ValidationError)
  | codec (e : CodecError)
  | transport (e : TransportError)
  | config (e : ConfigError)
  | status (code : Nat) (detail : String)
  | file (e : FileError)
deriving DecidableEq

namespace Error

/-- The wording of a cause. -/
def message : Error → String
  | validation e => e.message
  | codec e => e.message
  | transport e => e.message
  | config e => e.message
  | status code detail => "credhub returned " ++ toString code ++ ": " ++ detail
  | file e => "io error: " ++ e.message

/-- A document of the wrong shape. -/
def malformed (what : Malformation) : Error := .codec (.malformed what)

end Error

end Credentials
