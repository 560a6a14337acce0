import Credentials.Text.Digit

/-!
# Percent encoding

A character that may not stand in a place of a URL is written as its bytes in UTF-8, each as `%` and two
hexadecimal digits. Which characters are encoded depends on the place.
-/

namespace Credentials.Http

/-- A byte as a triple. -/
def triple (b : UInt8) : List Char := ['%', Text.upperHex (b.toNat / 16), Text.upperHex (b.toNat % 16)]

/-- A character as the triples of its bytes. -/
def triples (c : Char) : List Char := (String.utf8EncodeChar c).flatMap triple

/-- A text in which the characters that satisfy `p` are encoded. -/
def percentEncode (p : Char → Bool) (s : List Char) : List Char :=
  s.flatMap fun c => if p c then triples c else [c]

/-- The bytes of an encoded text; a `%` that no two digits follow stands for itself. -/
def percentDecode : List Char → List UInt8
  | '%' :: a :: b :: rest =>
    match Text.hexValue? a, Text.hexValue? b with
    | some m, some n => UInt8.ofNat (m * 16 + n) :: percentDecode rest
    | _, _ => 0x25 :: percentDecode (a :: b :: rest)
  | c :: rest => String.utf8EncodeChar c ++ percentDecode rest
  | [] => []

/-- Controls and what is not ASCII. -/
def isControlOrForeign (c : Char) : Bool := c.toNat < 0x20 || 0x7E < c.toNat

/-- What is encoded in a fragment. -/
def inFragmentSet (c : Char) : Bool :=
  isControlOrForeign c || c == ' ' || c == '"' || c == '<' || c == '>' || c == '\x60'

/-- What is encoded in a query. -/
def inQuerySet (c : Char) : Bool :=
  isControlOrForeign c || c == ' ' || c == '"' || c == '#' || c == '<' || c == '>' || c == '\''

/-- What is encoded in a path. -/
def inPathSet (c : Char) : Bool :=
  isControlOrForeign c || c == ' ' || c == '"' || c == '#' || c == '<' || c == '>' || c == '?'
    || c == '\x60' || c == '{' || c == '}'

/-- What is encoded in the name and the password of a user. -/
def inUserSet (c : Char) : Bool :=
  inPathSet c || ['/', ':', ';', '=', '@', '[', '\\', ']', '^', '|'].contains c

end Credentials.Http
