import Credentials.Domain.Basic
import Credentials.Http.Ipv4
import Credentials.Http.Ipv6
import Credentials.Http.Percent
import Credentials.Text.Utf8

/-!
# Hosts

The host in a URL is an address in brackets, an address of four bytes, or a name. A name may be percent
encoded and need not be in ASCII. `Host.ofChars?` reads what is written and `Host.text` is the one text
that all ways to write a host have in common.
-/

namespace Credentials.Http

/-- A host. -/
inductive Host
  /-- A name in ASCII. -/
  | name (text : List Char)
  /-- An address of four bytes. -/
  | ipv4 (address : Nat)
  /-- An address of eight pieces of two bytes. -/
  | ipv6 (pieces : List Nat)
deriving DecidableEq

namespace Host

/-- The host that a name in ASCII stands for. -/
def ofName? (name : List Char) : Option Host :=
  if name.isEmpty then none
  else if Ipv4.endsInNumber name then (Ipv4.ofChars? name).map .ipv4
  else some (.name name)

/-- The host that is written in a URL. -/
def ofChars? (s : List Char) : Option Host :=
  match s with
  | '[' :: rest =>
    if rest.getLast? = some ']' then (Ipv6.ofChars? rest.dropLast).map .ipv6 else none
  | _ => do ofName? (← Domain.ascii? (← Text.Utf8.strict? (percentDecode s)).toList)

/-- The text of a host. -/
def text : Host → String
  | name s => String.ofList s
  | ipv4 n => Ipv4.text n
  | ipv6 pieces => "[" ++ Ipv6.text pieces ++ "]"

/-- Whether a character may stand in a URL but not in what a server is asked for. -/
def isOdd (c : Char) : Bool := c == '"' || c == '\x60' || c == '\x7b' || c == '\x7d'

/-- Whether a server can be asked for something on the host. -/
def isAskable : Host → Bool
  | name s => !s.any isOdd
  | ipv4 _ | ipv6 _ => true

/-- Whether a host is an address. -/
def isAddress : Host → Bool
  | name _ => false
  | ipv4 _ | ipv6 _ => true

end Host

end Credentials.Http
