import Credentials.Http.Form
import Credentials.Http.Host
import Credentials.Http.User
import Credentials.Text.Blank
import Credentials.Text.Digit

/-!
# URLs of servers

`Url.ofString?` reads the URL of a web server as the URL standard does: white space and controls at the
ends, tabs and line breaks are dropped, a backslash counts as a slash, the segments `.` and `..` of the
path are resolved, and characters that may not stand where they are become percent encoded. A segment that
names a drive, a letter with a colon or a bar, is not left by `..`.
-/

namespace Credentials.Http

/-- The URL of something on a web server. -/
structure Url where
  /-- Whether the connection is encrypted. -/
  secure : Bool
  user : Option User
  /-- What names a user who cannot be decoded and so stays in the URL, with its `@`. -/
  userText : List Char
  host : Host
  /-- The port, unless it is the usual one. -/
  port : Option Nat
  /-- The path between its slashes. -/
  segments : List (List Char)
  query : Option (List Char)
  fragment : Option (List Char)
deriving DecidableEq

namespace Url

/-- Whether a character separates segments. -/
def isSlash (c : Char) : Bool := c == '/' || c == '\\'

/-- Whether a character is dropped at the ends of a URL. -/
def isControlOrSpace (c : Char) : Bool := c.toNat ≤ 0x20

/-- Whether a character is dropped wherever it stands. -/
def isTabOrBreak (c : Char) : Bool := c == '\t' || c == '\n' || c == '\r'

/-- A text without the characters that do not count. -/
def strip (s : List Char) : List Char :=
  (Text.trimBoth isControlOrSpace s).filter fun c => !isTabOrBreak c

/-- Whether the connection is encrypted, and the text behind the scheme. -/
def scheme? : List Char → Option (Bool × List Char)
  | 'h' :: 't' :: 't' :: 'p' :: ':' :: rest => some (false, rest)
  | 'h' :: 't' :: 't' :: 'p' :: 's' :: ':' :: rest => some (true, rest)
  | _ => none

/-- Whether a character ends the authority. -/
def endsAuthority (c : Char) : Bool := isSlash c || c == '?' || c == '#'

/-- The usual port. -/
def usualPort (secure : Bool) : Nat := if secure then 443 else 80

/-- A port as it is written; none stands for the usual one. -/
def port? (secure : Bool) (s : List Char) : Option (Option Nat) :=
  if s.all Char.isDigit then
    if s.isEmpty || Text.decimal s == usualPort secure then some none
    else if Text.decimal s < 65536 then some (some (Text.decimal s)) else none
  else none

/-- The text behind the last `@`. -/
def behindUser (s : List Char) : List Char := (s.reverse.takeWhile (· ≠ '@')).reverse

/-- The text in front of the last `@`. -/
def beforeHost (s : List Char) : List Char := ((s.reverse.dropWhile (· ≠ '@')).drop 1).reverse

/-- The host and what is written as the port; an address in brackets may hold colons. -/
def hostAndPort (s : List Char) : Option (List Char × List Char) :=
  match s with
  | '[' :: rest =>
    match rest.dropWhile (· ≠ ']') with
    | [] => none
    | _ :: after =>
      let host := '[' :: rest.takeWhile (· ≠ ']') ++ [']']
      match after with
      | [] => some (host, [])
      | ':' :: port => some (host, port)
      | _ => none
  | _ => some (s.takeWhile (· ≠ ':'), (s.dropWhile (· ≠ ':')).drop 1)

/-- Whether a segment stands for its own directory. -/
def isDot (s : List Char) : Bool :=
  s == ['.'] || s.map Char.toLower == ['%', '2', 'e']

/-- Whether a segment stands for the directory above. -/
def isDoubleDot (s : List Char) : Bool :=
  let t := s.map Char.toLower
  t == ['.', '.'] || t == ['.', '%', '2', 'e'] || t == ['%', '2', 'e', '.']
    || t == ['%', '2', 'e', '%', '2', 'e']

/-- Whether a segment names a drive. -/
def isDrive (s : List Char) : Bool :=
  match s with
  | [c, mark] => c.isAlpha && (mark == ':' || mark == '|')
  | _ => false

/-- The segments above those that are resolved. -/
def above (done : List (List Char)) : List (List Char) :=
  if done.getLast?.any isDrive then done else done.dropLast

/-- Adds segments to those that are resolved; a dot at the end leaves an empty segment. -/
def resolve (done : List (List Char)) : List (List Char) → List (List Char)
  | [] => done
  | [s] =>
    if isDoubleDot s then above done ++ [[]]
    else if isDot s then done ++ [[]]
    else done ++ [s]
  | s :: t :: rest =>
    if isDoubleDot s then resolve (above done) (t :: rest)
    else if isDot s then resolve done (t :: rest)
    else resolve (done ++ [s]) (t :: rest)

/-- The segments of a path, from its first slash on. -/
def segmentsOf (path : List Char) : List (List Char) :=
  (resolve [] ((path.drop 1).splitOnP isSlash)).map (percentEncode inPathSet)

/-- The text behind the first `mark`, if there is one. -/
def behind? (mark : Char) (s : List Char) : Option (List Char) :=
  match s.dropWhile (· ≠ mark) with
  | [] => none
  | _ :: rest => some rest

/-- The URL that a text stands for. -/
def ofString? (text : String) : Option Url :=
  match scheme? (strip text.toList) with
  | none => none
  | some (secure, s) =>
    let s := s.dropWhile isSlash
    let rest := s.dropWhile fun c => !endsAuthority c
    let authority := s.takeWhile fun c => !endsAuthority c
    match hostAndPort (behindUser authority) with
    | none => none
    | some (host, port) =>
      match Host.ofChars? host, port? secure port with
      | some host, some port =>
        let user := User.ofChars? (beforeHost authority)
        let before := rest.takeWhile (· ≠ '#')
        some
          { secure, user, host, port
            userText := if user.isSome then [] else User.textOfChars (beforeHost authority)
            segments := segmentsOf (before.takeWhile (· ≠ '?'))
            query := (behind? '?' before).map (percentEncode inQuerySet)
            fragment := (behind? '#' rest).map (percentEncode inFragmentSet) }
      | _, _ => none

/-- The URL with pairs added to its query. -/
def withPairs (u : Url) (pairs : List (String × String)) : Url :=
  if pairs.isEmpty then u
  else
    match u.query with
    | none => { u with query := some (Form.encode pairs) }
    | some [] => { u with query := some (Form.encode pairs) }
    | some q => { u with query := some (q ++ '&' :: Form.encode pairs) }

/-- The host and the port. -/
def authority (u : Url) : String :=
  match u.port with
  | none => u.host.text
  | some p => u.host.text ++ ":" ++ toString p

/-- The host and the port, the usual one included. -/
def address (u : Url) : String := u.host.text ++ ":" ++ toString (u.port.getD (usualPort u.secure))

/-- The part of the text in front of the path. -/
def origin (u : Url) : String :=
  (if u.secure then "https" else "http") ++ "://" ++ String.ofList u.userText ++ u.authority

/-- The path with its slashes. -/
def path (u : Url) : List Char := u.segments.flatMap fun s => '/' :: s

/-- A part of a URL with the mark in front of it. -/
def marked (mark : Char) : Option (List Char) → List Char
  | none => []
  | some s => mark :: s

/-- What a server is asked for. -/
def target (u : Url) : String := String.ofList (u.path ++ marked '?' u.query)

/-- The text of a URL, without a user who can be decoded. -/
def text (u : Url) : String := u.origin ++ u.target ++ String.ofList (marked '#' u.fragment)

/-- The longest text of a URL that a server can be asked for. -/
def longest : Nat := 65534

/-- Whether a server can be asked for what a URL names. -/
def isAskable (u : Url) : Bool := u.host.isAskable && u.text.utf8ByteSize ≤ longest

end Url

end Credentials.Http
