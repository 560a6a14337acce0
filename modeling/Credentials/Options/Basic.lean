import Credentials.Duration
import Credentials.Json.Fields
import Credentials.Json.Writer
import Credentials.Text.Digit

/-!
# Options of a client

How long a client waits and which certificates it trusts. In documents a timeout is a number of whole
milliseconds below 2⁶⁴; what is less than a millisecond is dropped and larger numbers start again
from 0.
-/

namespace Credentials

/-- The options of a client. -/
structure Options where
  connectionTimeout : Option Duration := none
  readTimeout : Option Duration := none
  /-- The files of certificates to trust in place of the usual ones. -/
  certificateFiles : Option (List String) := none
deriving DecidableEq

namespace Options

/-- Whether the client trusts certificates of its own choice. -/
def usesCustomCertificates (o : Options) : Bool := o.certificateFiles.isSome

/-- The number that stands for a timeout in documents. -/
def millisOf (d : Duration) : Nat := d.millis % 2 ^ 64

theorem millisOf_lt (d : Duration) : millisOf d < 2 ^ 64 := Nat.mod_lt _ (by decide)

/-- A timeout as documents keep it. -/
def truncate (d : Duration) : Duration := .ofMillis (millisOf d) (millisOf_lt d)

/-- A timeout in a document. -/
def millisJson (d : Duration) : Json :=
  .number (.integer ⟨millisOf d, by omega, by have := millisOf_lt d; omega⟩)

/-- The document of options. -/
def toJson (o : Options) : Json :=
  .ofFields
    [("connection_timeout_ms", o.connectionTimeout.map millisJson),
      ("read_timeout_ms", o.readTimeout.map millisJson),
      ("ca_cert_files", o.certificateFiles.map fun fs => .array (fs.map .string))]

/-- The text of the document of options. -/
def text (o : Options) : String := o.toJson.compact

end Options

end Credentials
