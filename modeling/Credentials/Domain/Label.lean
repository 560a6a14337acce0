import Credentials.Domain.Mapping
import Credentials.Domain.Punycode
import Credentials.Unicode.Composition
import Credentials.Unicode.Direction
import Credentials.Unicode.Joining

/-!
# Labels of a name

The name of a host consists of labels. A label that holds other characters than those of ASCII begins with
no mark, has joiners only where they make a difference, and is written in ASCII behind `xn--`. What stands
behind `xn--` has to be such a label in its plain form. If a label of a name is written from right to left,
all labels of it have to keep to one direction.
-/

namespace Credentials.Domain

open Unicode (Direction direction)

/-- What a label begins with that is written in ASCII but is not in ASCII. -/
def mark : List Char := ['x', 'n', '-', '-']

/-- The longest label that is read behind the mark. -/
def longestDecoded : Nat := 2000

/-- The longest label that is written in ASCII. -/
def longestEncoded : Nat := 1000

/-- The character that keeps letters apart. -/
def nonJoiner : Char := '\u200c'

/-- The character that joins letters. -/
def joiner : Char := '\u200d'

/-- Whether the first character that counts satisfies `p`. -/
def reaches (p : Char → Bool) (s : List Char) : Bool :=
  match s.dropWhile fun c => !p c && Unicode.isTransparent c with
  | [] => false
  | c :: _ => p c

/-- Whether a joiner makes a difference between what is in front, the last first, and what is behind. -/
def joinerFits (before : List Char) (c : Char) (behind : List Char) : Bool :=
  match before with
  | [] => false
  | last :: _ =>
    Unicode.isVirama last
      || (c == nonJoiner && reaches Unicode.joinsBehind before && reaches Unicode.joinsBefore behind)

/-- Whether all joiners behind `before`, which has the last character first, make a difference. -/
def joinersFit (before : List Char) : List Char → Bool
  | [] => true
  | c :: rest =>
    (!(c == nonJoiner || c == joiner) || joinerFits before c rest) && joinersFit (c :: before) rest

/-- Whether a label has the form that one not in ASCII must have. -/
def isWellFormed (s : List Char) : Bool := !(s.head?.any Unicode.isMark) && joinersFit [] s

/-- A label. -/
structure Label where
  /-- As it is read. -/
  chars : List Char
  /-- As it is written in ASCII. -/
  ascii : List Char
deriving DecidableEq

namespace Label

/-- The label that is written behind the mark. -/
def ofEncoded? (s : List Char) : Option Label := do
  if s.isEmpty || s.getLast? == some '-' || longestDecoded < s.length then none
  else
    let chars ← Punycode.decode? s
    if chars.all isOwnImage && Unicode.compose chars == chars && isWellFormed chars then
      return ⟨chars, mark ++ s⟩
    else none

/-- The label that characters in plain form are. -/
def ofChars? (s : List Char) : Option Label :=
  if mark.isPrefixOf s then
    if s.all Punycode.isBasic then ofEncoded? (s.drop mark.length) else none
  else if s.all Punycode.isBasic then some ⟨s, s⟩
  else if isWellFormed s && s.length ≤ longestEncoded then some ⟨s, mark ++ Punycode.encode s⟩
  else none

/-- Whether a label holds something that is written from right to left. -/
def isTurned (l : Label) : Bool :=
  l.chars.any fun c =>
    match direction c with
    | .rightToLeft | .arabicDigit => true
    | _ => false

/-- Whether characters from left to right keep to it; the last of them comes first. -/
def keepsLeft : List Direction → Bool
  | [] => true
  | last :: others =>
    (last == .leftToRight || last == .digit)
      && others.all fun d => d != .rightToLeft && d != .arabicDigit

/-- Whether characters from right to left keep to it; the last of them comes first. -/
def keepsRight : List Direction → Bool
  | [] => true
  | last :: others =>
    (last == .rightToLeft || last == .digit || last == .arabicDigit)
      && others.all (· != .leftToRight)
      && !((last :: others).contains .digit && (last :: others).contains .arabicDigit)

/-- Whether a label keeps to one direction; marks at its end do not count. -/
def keepsDirection (l : Label) : Bool :=
  match l.chars.map direction with
  | [] => true
  | first :: rest =>
    let inner := rest.reverse.dropWhile (· == .mark)
    match first with
    | .leftToRight => keepsLeft inner
    | .rightToLeft => keepsRight inner
    | _ => false

end Label

end Credentials.Domain
