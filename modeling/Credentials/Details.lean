import Credentials.Name
import Credentials.Value

/-!
# Stored credentials

What the server knows about a credential: `Details` is one version of it, and `Versions` lists versions
from the newest to the oldest.
-/

namespace Credentials

/-- A version of a credential. -/
structure Details where
  id : String
  name : Name
  value : Value
  createdAt : Option Instant

namespace Details

/-- The kind of the credential. -/
def kind (d : Details) : Kind := d.value.kind

instance : BEq Details := ⟨fun a b =>
  a.id == b.id && a.name == b.name && a.value == b.value && a.createdAt == b.createdAt⟩

end Details

/-- Versions of a credential, the newest first. -/
structure Versions where
  toList : List Details

namespace Versions

instance : BEq Versions := ⟨fun a b => a.toList == b.toList⟩

/-- The newest version. -/
def latest? (vs : Versions) : Option Details := vs.toList.head?

/-- How many versions there are. -/
def size (vs : Versions) : Nat := vs.toList.length

/-- Whether there is no version. -/
def isEmpty (vs : Versions) : Bool := vs.toList.isEmpty

end Versions

end Credentials
