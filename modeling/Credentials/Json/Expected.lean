import Credentials.Json.Reader
import Credentials.Unicode.Visible

/-!
# Texts that must hold a certain kind of value

`mismatch` says what is wrong when a text goes on with a value of another kind than expected: an array
or an object is refused at its bracket, any other value behind its end. `readObject` reads a text that
must be an object.
-/

namespace Credentials.Json

/-- A character as it is shown in a message. -/
def shownChar (c : Char) : List Char :=
  if c = '"' then ['\\', '"']
  else if c = '\\' then ['\\', '\\']
  else if c = '\n' then ['\\', 'n']
  else if c = '\r' then ['\\', 'r']
  else if c = '\t' then ['\\', 't']
  else if c = '\x00' then ['\\', '0']
  else if !Unicode.isVisible c then
    ['\\', 'u', '{'] ++ Nat.toDigits 16 c.toNat ++ ['}']
  else [c]

/-- A string as it is shown in a message. -/
def shownString (s : List Char) : String :=
  "string \"" ++ String.ofList (s.flatMap shownChar) ++ "\""

/-- A number as it is shown in a message. -/
def shownNumber : Number → String
  | .integer n => "integer `" ++ toString n.val ++ "`"
  | .float x => "floating point `" ++ x.text ++ "`"

/-- The fault of a value that is not of the expected kind. -/
def mismatch (expected : String) (s : List Char) : Fault :=
  let wrong (r : Step String) : Fault :=
    match r with
    | .error f => f
    | .ok (found, rest) => .before (.unexpectedType found expected) rest
  match skipBlanks s with
  | [] => ⟨.endInValue, 0⟩
  | 'n' :: rest => wrong ((word null ['u', 'l', 'l'] rest).map fun r => ("null", r.2))
  | 't' :: rest =>
    wrong ((word (bool true) ['r', 'u', 'e'] rest).map fun r => ("boolean `true`", r.2))
  | 'f' :: rest =>
    wrong ((word (bool false) ['a', 'l', 's', 'e'] rest).map fun r => ("boolean `false`", r.2))
  | '-' :: rest => wrong ((numberFrom true rest).map fun r => (shownNumber r.1, r.2))
  | '"' :: rest => wrong ((chars (rest.length + 1) rest).map fun r => (shownString r.1, r.2))
  | '[' :: rest => .before (.unexpectedType "sequence" expected) ('[' :: rest)
  | '{' :: rest => .before (.unexpectedType "map" expected) ('{' :: rest)
  | c :: rest =>
    if c.isDigit then wrong ((numberFrom false (c :: rest)).map fun r => (shownNumber r.1, r.2))
    else .inside .expectedValue (c :: rest)

/-- The members of an object that fills the whole text. -/
def objectDocument (s : List Char) : Except Fault Object :=
  match skipBlanks s with
  | '{' :: rest =>
    match members (stepsFor s) (maxDepth - 1) true .empty rest with
    | .error f => .error f
    | .ok (o, rest) =>
      match skipBlanks rest with
      | [] => .ok o
      | rest => .error (.inside .trailingCharacters rest)
  | s => .error (mismatch "a map" s)

/-- The members of the object that a text is. -/
def readObject (text : String) : Except SyntaxError Object :=
  (objectDocument text.toList).mapError (Fault.locate text.toList)

end Credentials.Json
