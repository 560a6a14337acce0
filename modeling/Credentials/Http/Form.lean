import Credentials.Http.Percent

/-!
# Forms in a query

Pairs of names and values as `application/x-www-form-urlencoded`: a space becomes `+`, ASCII letters and
digits and the characters `*-._` stay as they are, and everything else is percent encoded.
-/

namespace Credentials.Http.Form

/-- Whether a character stands for itself in a form. -/
def isPlain (c : Char) : Bool :=
  ('a' ≤ c && c ≤ 'z') || ('A' ≤ c && c ≤ 'Z') || ('0' ≤ c && c ≤ '9')
    || c == '*' || c == '-' || c == '.' || c == '_'

/-- A character of a name or a value. -/
def encodeChar (c : Char) : List Char :=
  if c = ' ' then ['+'] else if isPlain c then [c] else triples c

/-- A name or a value. -/
def encodeText (s : String) : List Char := s.toList.flatMap encodeChar

/-- A pair. -/
def encodePair (p : String × String) : List Char := encodeText p.1 ++ '=' :: encodeText p.2

/-- Pairs with `&` between them. -/
def encode : List (String × String) → List Char
  | [] => []
  | [p] => encodePair p
  | p :: ps => encodePair p ++ '&' :: encode ps

end Credentials.Http.Form
