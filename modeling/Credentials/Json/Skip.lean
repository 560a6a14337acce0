import Credentials.Json.Reader

/-!
# Skipping JSON values

A value that nobody asks for is skipped: only its form is checked. It may nest without bound, its numbers
may be out of range, the halves of surrogate pairs in its strings need no partner, and a comma in front
of a closing bracket is noticed as the value or the key that is missing behind it. `skip` returns the text
behind such a value.
-/

namespace Credentials.Json

/-- The text behind an escape, behind its backslash. -/
def skipEscape : List Char → Except Fault (List Char)
  | [] => .error ⟨.endInString, 0⟩
  | 'u' :: rest => (fourHex rest).map Prod.snd
  | c :: rest => if (escaped? c).isSome then .ok rest else .error (.inside .invalidEscape (c :: rest))

/-- The text behind a string of at most `n` characters, behind its opening quote. -/
def skipChars : Nat → List Char → Except Fault (List Char)
  | 0, s => .error (.before .endInString s)
  | _ + 1, [] => .error ⟨.endInString, 0⟩
  | _ + 1, '"' :: rest => .ok rest
  | n + 1, '\\' :: rest =>
    match skipEscape rest with
    | .error f => .error f
    | .ok rest => skipChars n rest
  | n + 1, c :: rest =>
    if c.toNat < 0x20 then .error (.before .controlCharacter (c :: rest)) else skipChars n rest

/-- The text behind digits, of which there is at least one. -/
def skipDigits (s : List Char) : Except Fault (List Char) :=
  if s.head?.any Char.isDigit then .ok (s.dropWhile Char.isDigit)
  else .error (.inside .invalidNumber s)

/-- The text behind an exponent, if there is one. -/
def skipExponent (s : List Char) : Except Fault (List Char) :=
  match s with
  | 'e' :: '+' :: rest => skipDigits rest
  | 'e' :: '-' :: rest => skipDigits rest
  | 'e' :: rest => skipDigits rest
  | 'E' :: '+' :: rest => skipDigits rest
  | 'E' :: '-' :: rest => skipDigits rest
  | 'E' :: rest => skipDigits rest
  | s => .ok s

/-- The text behind a fraction and an exponent, each of which may be missing. -/
def skipFraction (s : List Char) : Except Fault (List Char) :=
  match s with
  | '.' :: rest =>
    match skipDigits rest with
    | .error f => .error f
    | .ok rest => skipExponent rest
  | s => skipExponent s

/-- The text behind a number, behind its minus sign if it has one. -/
def skipNumber (s : List Char) : Except Fault (List Char) :=
  match s with
  | '0' :: rest =>
    if rest.head?.any Char.isDigit then .error (.inside .invalidNumber rest) else skipFraction rest
  | s =>
    match skipDigits s with
    | .error f => .error f
    | .ok rest => skipFraction rest

mutual

/-- The text behind a value. The first argument bounds the steps. -/
def skip : Nat → List Char → Except Fault (List Char)
  | 0, s => .error (.before .expectedValue s)
  | n + 1, s =>
    match skipBlanks s with
    | [] => .error ⟨.endInValue, 0⟩
    | 'n' :: rest => (word null ['u', 'l', 'l'] rest).map Prod.snd
    | 't' :: rest => (word null ['r', 'u', 'e'] rest).map Prod.snd
    | 'f' :: rest => (word null ['a', 'l', 's', 'e'] rest).map Prod.snd
    | '-' :: rest => skipNumber rest
    | '"' :: rest => skipChars (n + 1) rest
    | '[' :: rest =>
      match skipBlanks rest with
      | [] => .error ⟨.endInList, 0⟩
      | ']' :: rest => .ok rest
      | rest => skipItems n rest
    | '{' :: rest =>
      match skipBlanks rest with
      | [] => .error ⟨.endInObject, 0⟩
      | '}' :: rest => .ok rest
      | rest => skipMembers n rest
    | c :: rest =>
      if c.isDigit then skipNumber (c :: rest) else .error (.inside .expectedValue (c :: rest))

/-- The text behind the items of an array and its closing bracket, from an item on. -/
def skipItems : Nat → List Char → Except Fault (List Char)
  | 0, s => .error (.before .endInList s)
  | n + 1, s =>
    match skip n s with
    | .error f => .error f
    | .ok rest =>
      match skipBlanks rest with
      | [] => .error ⟨.endInList, 0⟩
      | ']' :: rest => .ok rest
      | ',' :: rest => skipItems n rest
      | rest => .error (.inside .expectedCommaOrBracket rest)

/-- The text behind the members of an object and its closing brace, from a key on. -/
def skipMembers : Nat → List Char → Except Fault (List Char)
  | 0, s => .error (.before .endInObject s)
  | n + 1, s =>
    match skipBlanks s with
    | [] => .error ⟨.endInObject, 0⟩
    | '"' :: rest =>
      match skipChars (n + 1) rest with
      | .error f => .error f
      | .ok rest =>
        match colon rest with
        | .error f => .error f
        | .ok rest =>
          match skip n rest with
          | .error f => .error f
          | .ok rest =>
            match skipBlanks rest with
            | [] => .error ⟨.endInObject, 0⟩
            | '}' :: rest => .ok rest
            | ',' :: rest => skipMembers n rest
            | rest => .error (.inside .expectedCommaOrBrace rest)
    | rest => .error (.inside .keyNotString rest)

end

end Credentials.Json
