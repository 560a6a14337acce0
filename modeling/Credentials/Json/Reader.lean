import Credentials.Json.Basic
import Credentials.Text.Digit
import Credentials.Text.Utf8

/-!
# Reading JSON text

A recursive descent reader. Each step takes the characters that are left and returns what it read with
the characters after it, or a `Fault`: a cause and the number of bytes that are left behind the place it
was noticed at. `read` turns that count into a line and a column, both counted as editors do except
that a column counts bytes. At most 127 arrays and objects may be nested.
-/

namespace Credentials.Json

open Text.Utf8 (byteCount)

/-- Why a text is not JSON, or not the JSON that was asked for. -/
inductive Cause
  | endInList
  | endInObject
  | endInString
  | endInValue
  | expectedColon
  | expectedCommaOrBracket
  | expectedCommaOrBrace
  | expectedIdentifier
  | expectedValue
  | invalidEscape
  | invalidNumber
  | numberOutOfRange
  | controlCharacter
  | keyNotString
  | loneSurrogate
  | trailingComma
  | trailingCharacters
  | surrogateNotPaired
  | tooDeep
  | unexpectedType (found expected : String)
  | invalidValue (found expected : String)
  | duplicateField (name : String)
deriving DecidableEq

namespace Cause

/-- The wording of a cause. -/
def message : Cause → String
  | endInList => "EOF while parsing a list"
  | endInObject => "EOF while parsing an object"
  | endInString => "EOF while parsing a string"
  | endInValue => "EOF while parsing a value"
  | expectedColon => "expected `:`"
  | expectedCommaOrBracket => "expected `,` or `]`"
  | expectedCommaOrBrace => "expected `,` or `\x7d`"
  | expectedIdentifier => "expected ident"
  | expectedValue => "expected value"
  | invalidEscape => "invalid escape"
  | invalidNumber => "invalid number"
  | numberOutOfRange => "number out of range"
  | controlCharacter => "control character (\\u0000-\\u001F) found while parsing a string"
  | keyNotString => "key must be a string"
  | loneSurrogate => "lone leading surrogate in hex escape"
  | trailingComma => "trailing comma"
  | trailingCharacters => "trailing characters"
  | surrogateNotPaired => "unexpected end of hex escape"
  | tooDeep => "recursion limit exceeded"
  | unexpectedType found expected => "invalid type: " ++ found ++ ", expected " ++ expected
  | invalidValue found expected => "invalid value: " ++ found ++ ", expected " ++ expected
  | duplicateField name => "duplicate field `" ++ name ++ "`"

end Cause

/-- A cause and the place in the text where it was noticed. -/
structure SyntaxError where
  cause : Cause
  /-- Counted from one. -/
  line : Nat
  /-- The bytes of the line up to the place. -/
  column : Nat
deriving DecidableEq

/-- The wording of a syntax error. -/
def SyntaxError.message (e : SyntaxError) : String :=
  e.cause.message ++ " at line " ++ toString e.line ++ " column " ++ toString e.column

/-- A cause and how many bytes of the text are left behind the place it was noticed at. -/
structure Fault where
  cause : Cause
  left : Nat

/-- What a step of the reader returns. -/
abbrev Step (α : Type) := Except Fault (α × List Char)

/-- A fault in front of what is left. -/
def Fault.before (cause : Cause) (rest : List Char) : Fault := ⟨cause, byteCount rest⟩

/-- A fault behind the first byte of what is left, or at the end. -/
def Fault.inside (cause : Cause) (rest : List Char) : Fault := ⟨cause, byteCount rest - 1⟩

/-- The blanks of JSON. -/
def isBlank (c : Char) : Bool := c == ' ' || c == '\n' || c == '\t' || c == '\r'

/-- The text without the blanks in front. -/
def skipBlanks (s : List Char) : List Char := s.dropWhile isBlank

/-! ## Strings -/

/-- The value of four hexadecimal digits; a fault lies behind the four bytes. -/
def fourHex (s : List Char) : Step Nat :=
  if byteCount s < 4 then .error ⟨.endInString, 0⟩
  else match s with
    | a :: b :: c :: d :: rest =>
      match Text.hexValue? a, Text.hexValue? b, Text.hexValue? c, Text.hexValue? d with
      | some a, some b, some c, some d => .ok (((a * 16 + b) * 16 + c) * 16 + d, rest)
      | _, _, _, _ => .error ⟨.invalidEscape, byteCount s - 4⟩
    | _ => .error ⟨.invalidEscape, byteCount s - 4⟩

/-- Whether a code unit is the first half of a surrogate pair. -/
def isLeading (n : Nat) : Bool := 0xD800 ≤ n && n ≤ 0xDBFF

/-- Whether a code unit is the second half of a surrogate pair. -/
def isTrailing (n : Nat) : Bool := 0xDC00 ≤ n && n ≤ 0xDFFF

/-- The character of an escape by code units, behind its first letter. -/
def unicodeEscape (s : List Char) : Step Char :=
  match fourHex s with
  | .error f => .error f
  | .ok (n, rest) =>
    if isTrailing n then .error (.before .loneSurrogate rest)
    else if isLeading n then
      match rest with
      | [] => .error ⟨.endInString, 0⟩
      | '\\' :: [] => .error ⟨.endInString, 0⟩
      | '\\' :: 'u' :: rest =>
        match fourHex rest with
        | .error f => .error f
        | .ok (m, rest) =>
          if isTrailing m then
            .ok (Char.ofNat ((n - 0xD800) * 0x400 + (m - 0xDC00) + 0x10000), rest)
          else .error (.before .loneSurrogate rest)
      | '\\' :: rest => .error (.inside .surrogateNotPaired rest)
      | rest => .error (.inside .surrogateNotPaired rest)
    else .ok (Char.ofNat n, rest)

/-- The character that a letter behind a backslash stands for. -/
def escaped? : Char → Option Char
  | '"' => some '"'
  | '\\' => some '\\'
  | '/' => some '/'
  | 'b' => some '\x08'
  | 'f' => some '\x0c'
  | 'n' => some '\n'
  | 'r' => some '\r'
  | 't' => some '\t'
  | _ => none

/-- The character of an escape, behind its backslash. -/
def escape : List Char → Step Char
  | [] => .error ⟨.endInString, 0⟩
  | 'u' :: rest => unicodeEscape rest
  | c :: rest =>
    match escaped? c with
    | some d => .ok (d, rest)
    | none => .error (.inside .invalidEscape (c :: rest))

/-- The characters of a string, behind its opening quote. The first argument bounds their number. -/
def chars : Nat → List Char → Step (List Char)
  | 0, s => .error (.before .endInString s)
  | _ + 1, [] => .error ⟨.endInString, 0⟩
  | _ + 1, '"' :: rest => .ok ([], rest)
  | n + 1, '\\' :: rest =>
    match escape rest with
    | .error f => .error f
    | .ok (c, rest) => (chars n rest).map fun r => (c :: r.1, r.2)
  | n + 1, c :: rest =>
    if c.toNat < 0x20 then .error (.before .controlCharacter rest)
    else (chars n rest).map fun r => (c :: r.1, r.2)

/-! ## Numbers -/

/-- A whole number that fits. -/
def Integer.ofInt? (n : Int) : Option Integer :=
  if h : -9223372036854775808 ≤ n ∧ n < 18446744073709551616 then some ⟨n, h.1, h.2⟩ else none

/-- Appends digits to a significand while it fits in 64 bits; the digits that do not are left. -/
def takeDigits : Nat → List Char → Nat × List Char
  | s, [] => (s, [])
  | s, c :: cs =>
    if s * 10 + Text.digitValue c < 2 ^ 64 then takeDigits (s * 10 + Text.digitValue c) cs else (s, c :: cs)

/-- The value of an exponent's digits, or the digits behind the one that exceeds 31 bits. -/
def exponentValue : Nat → List Char → Except (List Char) Nat
  | e, [] => .ok e
  | e, c :: cs =>
    if 2147483647 < e * 10 + Text.digitValue c then .error cs
    else exponentValue (e * 10 + Text.digitValue c) cs

/-- A double with a sign. -/
def signed (negative : Bool) (x : Binary64) : Number :=
  .float (if negative then x.negate else x)

/-- The double of a significand and an exponent. -/
def scaled (negative : Bool) (significand : Nat) (exponent : Int) (rest : List Char) : Step Number :=
  match Binary64.ofDecimal? significand exponent with
  | some x => .ok (signed negative x, rest)
  | none => .error (.before .numberOutOfRange rest)

/-- A number's exponent, behind its letter, and with it the number. -/
def exponent (negative : Bool) (significand : Nat) (start : Int) (s : List Char) : Step Number :=
  let (down, s) := match s with
    | '+' :: r => (false, r)
    | '-' :: r => (true, r)
    | r => (false, r)
  match s with
  | [] => .error ⟨.endInValue, 0⟩
  | c :: _ =>
    if c.isDigit then
      let digits := s.takeWhile Char.isDigit
      let rest := s.dropWhile Char.isDigit
      match exponentValue 0 digits with
      | .ok e => scaled negative significand (if down then start - e else start + e) rest
      | .error unread =>
        if significand ≠ 0 ∧ ¬ down then
          .error ⟨.numberOutOfRange, byteCount rest + unread.length⟩
        else .ok (signed negative .zero, rest)
    else .error (.inside .invalidNumber s)

/-- What may follow a number's whole part, and with it the number. -/
def afterWhole (negative : Bool) (significand : Nat) (dropped : Nat) (s : List Char) : Step Number :=
  match s with
  | '.' :: r =>
    let digits := r.takeWhile Char.isDigit
    let rest := r.dropWhile Char.isDigit
    if digits.isEmpty then
      match rest with
      | [] => .error ⟨.endInValue, 0⟩
      | _ => .error (.inside .invalidNumber rest)
    else
      let (significand, unread) := takeDigits significand digits
      let start : Int := dropped - (digits.length - unread.length : Nat)
      match rest with
      | 'e' :: r => exponent negative significand start r
      | 'E' :: r => exponent negative significand start r
      | _ => scaled negative significand start rest
  | 'e' :: r => exponent negative significand dropped r
  | 'E' :: r => exponent negative significand dropped r
  | _ =>
    if dropped ≠ 0 then scaled negative significand dropped s
    else if negative ∧ significand = 0 then .ok (signed true .zero, s)
    else
      match Integer.ofInt? (if negative then -significand else significand) with
      | some n => .ok (.integer n, s)
      | none => scaled negative significand 0 s

/-- A number, behind its minus sign if it has one. -/
def numberFrom (negative : Bool) (s : List Char) : Step Number :=
  match s with
  | [] => .error ⟨.endInValue, 0⟩
  | c :: rest =>
    if c.isDigit then
      if c = '0' ∧ (rest.head?.any Char.isDigit) then .error (.inside .invalidNumber rest)
      else
        let (significand, dropped) := takeDigits 0 (s.takeWhile Char.isDigit)
        afterWhole negative significand dropped.length (s.dropWhile Char.isDigit)
    else .error (.inside .invalidNumber s)

/-! ## Values -/

/-- The letters of a word, behind its first one. -/
def word (value : Json) : List Char → List Char → Step Json
  | [], s => .ok (value, s)
  | _ :: _, [] => .error ⟨.endInValue, 0⟩
  | w :: ws, c :: rest =>
    if c = w then word value ws rest else .error (.inside .expectedIdentifier (c :: rest))

/-- Whether an item follows, and the text from it on, or else behind the closing bracket. -/
def nextItem (first : Bool) (s : List Char) : Step Bool :=
  match skipBlanks s with
  | [] => .error ⟨.endInList, 0⟩
  | ']' :: rest => .ok (false, rest)
  | c :: rest =>
    if first then .ok (true, c :: rest)
    else if c = ',' then
      match skipBlanks rest with
      | [] => .error ⟨.endInValue, 0⟩
      | ']' :: rest => .error (.inside .trailingComma (']' :: rest))
      | rest => .ok (true, rest)
    else .error (.inside .expectedCommaOrBracket (c :: rest))

/-- The key that follows, of at most `n` characters, if the closing brace does not. -/
def nextKey (n : Nat) (first : Bool) (s : List Char) : Step (Option (List Char)) :=
  match skipBlanks s with
  | [] => .error ⟨.endInObject, 0⟩
  | '}' :: rest => .ok (none, rest)
  | c :: rest =>
    if first then
      if c = '"' then (chars n rest).map fun r => (some r.1, r.2)
      else .error (.inside .keyNotString (c :: rest))
    else if c = ',' then
      match skipBlanks rest with
      | [] => .error ⟨.endInValue, 0⟩
      | '"' :: rest => (chars n rest).map fun r => (some r.1, r.2)
      | '}' :: rest => .error (.inside .trailingComma ('}' :: rest))
      | rest => .error (.inside .keyNotString rest)
    else .error (.inside .expectedCommaOrBrace (c :: rest))

/-- The text behind the colon that follows a key. -/
def colon (s : List Char) : Except Fault (List Char) :=
  match skipBlanks s with
  | [] => .error ⟨.endInObject, 0⟩
  | ':' :: rest => .ok rest
  | rest => .error (.inside .expectedColon rest)

mutual

/-- A value. The first argument bounds the steps and the second is how deep it may still nest. -/
def value : Nat → Nat → List Char → Step Json
  | 0, _, s => .error (.before .expectedValue s)
  | n + 1, room, s =>
    match skipBlanks s with
    | [] => .error ⟨.endInValue, 0⟩
    | 'n' :: rest => word null ['u', 'l', 'l'] rest
    | 't' :: rest => word (bool true) ['r', 'u', 'e'] rest
    | 'f' :: rest => word (bool false) ['a', 'l', 's', 'e'] rest
    | '-' :: rest => (numberFrom true rest).map fun r => (number r.1, r.2)
    | '"' :: rest => (chars (n + 1) rest).map fun r => (string (String.ofList r.1), r.2)
    | '[' :: rest =>
      match room with
      | 0 => .error (.inside .tooDeep ('[' :: rest))
      | room + 1 => (items n room true rest).map fun r => (array r.1, r.2)
    | '{' :: rest =>
      match room with
      | 0 => .error (.inside .tooDeep ('{' :: rest))
      | room + 1 => (members n room true .empty rest).map fun r => (object r.1, r.2)
    | c :: rest =>
      if c.isDigit then (numberFrom false (c :: rest)).map fun r => (number r.1, r.2)
      else .error (.inside .expectedValue (c :: rest))

/-- The items of an array up to its closing bracket; `first` says that none was read yet. -/
def items : Nat → Nat → Bool → List Char → Step (List Json)
  | 0, _, _, s => .error (.before .endInList s)
  | n + 1, room, first, s =>
    match nextItem first s with
    | .error f => .error f
    | .ok (false, rest) => .ok ([], rest)
    | .ok (true, rest) =>
      match value n room rest with
      | .error f => .error f
      | .ok (v, rest) => (items n room false rest).map fun r => (v :: r.1, r.2)

/-- The members of an object up to its closing brace, added to those read before. -/
def members : Nat → Nat → Bool → Object → List Char → Step Object
  | 0, _, _, _, s => .error (.before .endInObject s)
  | n + 1, room, first, o, s =>
    match nextKey (n + 1) first s with
    | .error f => .error f
    | .ok (none, rest) => .ok (o, rest)
    | .ok (some key, rest) =>
      match colon rest with
      | .error f => .error f
      | .ok rest =>
        match value n room rest with
        | .error f => .error f
        | .ok (v, rest) => members n room false (o.insert (String.ofList key) v) rest

end

/-! ## Whole texts -/

/-- How many arrays and objects may be nested in a text. -/
def maxDepth : Nat := 127

/-- Enough steps for a text: no character takes more than two. -/
def stepsFor (s : List Char) : Nat := 2 * s.length + 2

/-- A value that fills the whole text. -/
def document (s : List Char) : Except Fault Json :=
  match value (stepsFor s) maxDepth s with
  | .error f => .error f
  | .ok (v, rest) =>
    match skipBlanks rest with
    | [] => .ok v
    | rest => .error (.inside .trailingCharacters rest)

/-- The line and the column behind the first `n` bytes of a text, counted on from a place. -/
def locate : List Char → Nat → Nat → Nat → Nat × Nat
  | [], _, line, column => (line, column)
  | _ :: _, 0, line, column => (line, column)
  | c :: cs, n + 1, line, column =>
    if c = '\n' then locate cs n (line + 1) 0
    else locate cs (n + 1 - c.utf8Size) line (column + min c.utf8Size (n + 1))

/-- A fault with its place in the text. -/
def Fault.locate (s : List Char) (f : Fault) : SyntaxError :=
  let (line, column) := Json.locate s (byteCount s - f.left) 1 0
  ⟨f.cause, line, column⟩

/-- The JSON value that a text is. -/
def read (text : String) : Except SyntaxError Json :=
  (document text.toList).mapError (Fault.locate text.toList)

end Credentials.Json
