import Credentials.Text.Digit

/-!
# Keys and strings in TOML

Steps that read a piece from the front of a text and return it with the rest, or nothing when the text
goes on with something else: blanks, line ends, comments, the four ways to write a string, and keys.
-/

namespace Credentials.Toml

/-- Whether a character is a blank. -/
def isBlank (c : Char) : Bool := c == ' ' || c == '\t'

/-- The text without the blanks in front. -/
def skipBlanks (s : List Char) : List Char := s.dropWhile isBlank

/-- Whether a character may stand in a line: a tab, or no control. -/
def isLineChar (c : Char) : Bool := c == '\t' || (0x20 ≤ c.toNat && c.toNat != 0x7F)

/-- The text behind a line break. -/
def lineBreak? : List Char → Option (List Char)
  | '\n' :: s => some s
  | '\r' :: '\n' :: s => some s
  | _ => none

/-- The text behind a line break, or at the end. -/
def lineEnd? (s : List Char) : Option (List Char) := if s.isEmpty then some [] else lineBreak? s

/-- The text behind a comment, if there is one. -/
def skipComment : List Char → List Char
  | '#' :: s => s.dropWhile isLineChar
  | s => s

/-- The text behind blanks, a comment and the end of the line. -/
def restOfLine? (s : List Char) : Option (List Char) := lineEnd? (skipComment (skipBlanks s))

/-- The text behind blanks, line breaks and comments; each round of `n` takes one of them. -/
def skipLines : Nat → List Char → List Char
  | 0, s => s
  | n + 1, s =>
    match lineBreak? (skipBlanks s) with
    | some rest => skipLines n rest
    | none =>
      match skipBlanks s with
      | '#' :: rest =>
        match lineBreak? (skipComment ('#' :: rest)) with
        | some rest => skipLines n rest
        | none => '#' :: rest
      | rest => rest

/-- The character with a code point, if there is one. -/
def charOf? (n : Nat) : Option Char := if n.isValidChar then some (Char.ofNat n) else none

/-- The character given by so many hexadecimal digits. -/
def codePoint (digits : Nat) (s : List Char) : Option (Char × List Char) := do
  let values ← (s.take digits).mapM Text.hexValue?
  if values.length = digits then
    let c ← charOf? (values.foldl (fun n v => n * 16 + v) 0)
    return (c, s.drop digits)
  else none

/-- The character of an escape, behind its backslash. -/
def escape : List Char → Option (Char × List Char)
  | 'b' :: s => some ('\x08', s)
  | 't' :: s => some ('\t', s)
  | 'n' :: s => some ('\n', s)
  | 'f' :: s => some ('\x0c', s)
  | 'r' :: s => some ('\r', s)
  | '"' :: s => some ('"', s)
  | '\\' :: s => some ('\\', s)
  | 'u' :: s => codePoint 4 s
  | 'U' :: s => codePoint 8 s
  | _ => none

/-- The characters of a string in one line, behind its opening quote. -/
def basicChars : Nat → List Char → Option (List Char × List Char)
  | 0, _ => none
  | _ + 1, [] => none
  | _ + 1, '"' :: s => some ([], s)
  | n + 1, '\\' :: s => do
    let (c, s) ← escape s
    let (cs, s) ← basicChars n s
    return (c :: cs, s)
  | n + 1, c :: s =>
    if isLineChar c then (basicChars n s).map fun r => (c :: r.1, r.2) else none

/-- The characters of a literal string in one line, behind its opening quote. -/
def literalChars (s : List Char) : Option (List Char × List Char) :=
  let inner := s.takeWhile fun c => isLineChar c && c != '\''
  match s.dropWhile fun c => isLineChar c && c != '\'' with
  | '\'' :: rest => some (inner, rest)
  | _ => none

/-- How many quotes a text begins with. -/
def quoteCount (quote : Char) (s : List Char) : Nat := (s.takeWhile (· == quote)).length

/-- The text behind blanks and line breaks. -/
def skipBreaks : List Char → List Char
  | [] => []
  | '\r' :: '\n' :: s => skipBreaks s
  | c :: s => if isBlank c || c == '\n' then skipBreaks s else c :: s

/-- The text behind a backslash at the end of a line: blanks and line breaks are skipped. -/
def continuation? (s : List Char) : Option (List Char) :=
  (lineBreak? (skipBlanks s)).map skipBreaks

/--
The characters of a string over several lines, up to its three closing quotes, in front of which two more
may stand.
-/
def blockChars (quote : Char) (escapes : Bool) : Nat → List Char → Option (List Char × List Char)
  | 0, _ => none
  | _ + 1, [] => none
  | n + 1, c :: s =>
    if c = quote then
      let count := quoteCount quote (c :: s)
      if 3 ≤ count then
        if count ≤ 5 then
          some (List.replicate (count - 3) quote, (c :: s).drop count)
        else none
      else (blockChars quote escapes n s).map fun r => (c :: r.1, r.2)
    else if c = '\\' ∧ escapes then
      match continuation? s with
      | some s => blockChars quote escapes n s
      | none => do
        let (c, s) ← escape s
        let (cs, s) ← blockChars quote escapes n s
        return (c :: cs, s)
    else
      match lineBreak? (c :: s) with
      | some s => (blockChars quote escapes n s).map fun r => ('\n' :: r.1, r.2)
      | none =>
        if isLineChar c then (blockChars quote escapes n s).map fun r => (c :: r.1, r.2)
        else none

/-- The text without a line break in front. -/
def dropBreak (s : List Char) : List Char := (lineBreak? s).getD s

/-- A string in one line. -/
def lineString : List Char → Option (List Char × List Char)
  | '"' :: s => basicChars (s.length + 1) s
  | '\'' :: s => literalChars s
  | _ => none

/-- A string. -/
def string : List Char → Option (List Char × List Char)
  | '"' :: '"' :: '"' :: s => blockChars '"' true (s.length + 1) (dropBreak s)
  | '\'' :: '\'' :: '\'' :: s => blockChars '\'' false (s.length + 1) (dropBreak s)
  | s => lineString s

/-- Whether a character may stand in a bare key. -/
def isBare (c : Char) : Bool := c.isAlphanum || c == '_' || c == '-'

/-- A key without dots. -/
def simpleKey (s : List Char) : Option (String × List Char) :=
  match s with
  | '"' :: _ => (lineString s).map fun r => (String.ofList r.1, r.2)
  | '\'' :: _ => (lineString s).map fun r => (String.ofList r.1, r.2)
  | _ =>
    let bare := s.takeWhile isBare
    if bare.isEmpty then none else some (String.ofList bare, s.dropWhile isBare)

/-- The longest dotted key. -/
def maxKeys : Nat := 79

/-- A key of at most `n` pieces with dots between them, blanks around each: all pieces. -/
def dottedKey : Nat → List Char → Option (List String × List Char)
  | 0, _ => none
  | n + 1, s => do
    let (key, s) ← simpleKey (skipBlanks s)
    match skipBlanks s with
    | '.' :: s => (dottedKey n s).map fun r => (key :: r.1, r.2)
    | s => return ([key], s)

/-- A key: the pieces in front and the last one. -/
def key (s : List Char) : Option ((List String × String) × List Char) := do
  let (keys, s) ← dottedKey maxKeys s
  let last ← keys.getLast?
  return ((keys.dropLast, last), s)

end Credentials.Toml
