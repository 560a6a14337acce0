import Credentials.Instant.Basic
import Credentials.Text.Digit
import Credentials.Text.Utf8

/-!
# Timestamps of RFC 3339

`render` writes an instant in UTC with a closing `Z` and the shortest of no, three, six or nine
fraction digits that is exact. Years beyond 9999 and before 0 are written with a sign, which `parse`
does not read. `parse` reads any offset of less than a day and any number of fraction digits, of which
it keeps nine, and names the first thing that is wrong.
-/

namespace Credentials

namespace Instant

/-- A number in decimal, filled with zeros to a width. -/
def padded (width n : Nat) : List Char :=
  let digits := Nat.toDigits 10 n
  List.replicate (width - digits.length) '0' ++ digits

/-- A year: four digits, with a sign outside of 0 to 9999. -/
def renderYear (y : Int) : List Char :=
  if 0 ≤ y ∧ y ≤ 9999 then padded 4 y.toNat
  else (if y < 0 then '-' else '+') :: padded 4 y.natAbs

/-- A fraction: as few groups of three digits as are exact. -/
def renderFraction (nanos : Nat) : List Char :=
  if nanos = 0 then []
  else if nanos % 1000000 = 0 then '.' :: padded 3 (nanos / 1000000)
  else if nanos % 1000 = 0 then '.' :: padded 6 (nanos / 1000)
  else '.' :: padded 9 nanos

/-- The text of an instant. -/
def renderChars (i : Instant) : List Char :=
  let d := i.date
  let s := i.secondOfDay
  let leap := i.nanos / 1000000000
  renderYear d.year ++ '-' :: padded 2 d.month ++ '-' :: padded 2 d.day
    ++ 'T' :: padded 2 (s / 3600) ++ ':' :: padded 2 (s / 60 % 60) ++ ':' :: padded 2 (s % 60 + leap)
    ++ renderFraction (i.nanos % 1000000000) ++ ['Z']

/-- The text of an instant. -/
def render (i : Instant) : String := String.ofList i.renderChars

/-- What may be wrong with a timestamp. -/
inductive ParseError
  | tooShort
  | invalid
  | outOfRange
  | tooLong
deriving DecidableEq

/-- The wording of what is wrong with a timestamp. -/
def ParseError.message : ParseError → String
  | tooShort => "premature end of input"
  | invalid => "input contains invalid characters"
  | outOfRange => "input is out of range"
  | tooLong => "trailing input"

/-- One decimal digit. -/
def digit : List Char → Except ParseError (Nat × List Char)
  | c :: rest => if c.isDigit then .ok (Text.digitValue c, rest) else .error .invalid
  | [] => .error .invalid

/-- A number of two digits. -/
def twoDigits (s : List Char) : Except ParseError (Nat × List Char) := do
  let (a, s) ← digit s
  let (b, s) ← digit s
  return (a * 10 + b, s)

/-- A character that satisfies a condition. -/
def mark (p : Char → Bool) : List Char → Except ParseError (Unit × List Char)
  | c :: rest => if p c then .ok ((), rest) else .error .invalid
  | [] => .error .invalid

/-- A date, with its digits read before it is checked. -/
def parseDate (s : List Char) : Except ParseError (Date × List Char) := do
  let (century, s) ← twoDigits s
  let (year, s) ← twoDigits s
  let (_, s) ← mark (· == '-') s
  let (month, s) ← twoDigits s
  let (_, s) ← mark (· == '-') s
  let (day, s) ← twoDigits s
  let date : Date := ⟨century * 100 + year, month, day⟩
  if date.isValid then return (date, s) else .error .outOfRange

/-- A fraction of a second in nanoseconds; digits after the ninth are dropped. -/
def parseFraction : List Char → Except ParseError (Nat × List Char)
  | '.' :: s =>
    match s with
    | [] => .error .tooShort
    | c :: _ =>
      if c.isDigit then
        let digits := (s.takeWhile Char.isDigit).take 9
        let n := Text.decimal digits
        .ok (n * 10 ^ (9 - digits.length), s.dropWhile Char.isDigit)
      else .error .invalid
  | s => .ok (0, s)

/-- The size of the first characters of a text in bytes, as far as it decides between two faults. -/
def holdsTwoBytes : List Char → Bool
  | [] => false
  | [c] => 2 ≤ c.utf8Size
  | _ => true

/-- Two digits of an offset. -/
def offsetDigits (s : List Char) : Except ParseError ((Nat × Nat) × List Char) :=
  if holdsTwoBytes s then
    match s with
    | a :: b :: rest =>
      if a.isDigit ∧ b.isDigit then .ok ((Text.digitValue a, Text.digitValue b), rest)
      else .error .invalid
    | _ => .error .invalid
  else .error .tooShort

/-- Hours and minutes of an offset, in minutes. -/
def parseOffsetBody (s : List Char) : Except ParseError (Int × List Char) := do
  let ((h, h'), s) ← offsetDigits s
  match s with
  | [] => .error .tooShort
  | ':' :: s =>
    let ((m, m'), s) ← offsetDigits s
    if 5 < m then .error .outOfRange else
    return (((h * 10 + h') * 60 + (m * 10 + m') : Nat), s)
  | _ => .error .invalid

/-- An offset from UTC in minutes; three characters may stand for minus and plus. -/
def parseOffset : List Char → Except ParseError (Int × List Char)
  | [] => .error .tooShort
  | 'Z' :: s => .ok (0, s)
  | 'z' :: s => .ok (0, s)
  | '+' :: s => parseOffsetBody s
  | '-' :: s => (parseOffsetBody s).map fun r => (-r.1, r.2)
  | '\u2212' :: s => (parseOffsetBody s).map fun r => (-r.1, r.2)
  | _ => .error .invalid

/-- The instant that a timestamp names. -/
def parseChars (s : List Char) : Except ParseError Instant := do
  if Text.Utf8.byteCount s < 19 then .error .tooShort else
  let (date, s) ← parseDate s
  let (_, s) ← mark (fun c => c == 'T' || c == 't' || c == ' ') s
  let (hour, s) ← twoDigits s
  let (_, s) ← mark (· == ':') s
  let (minute, s) ← twoDigits s
  let (_, s) ← mark (· == ':') s
  let (second, s) ← twoDigits s
  let (fraction, s) ← parseFraction s
  let leap := second == 60
  let second := if leap then 59 else second
  if 24 ≤ hour ∨ 60 ≤ minute ∨ 60 ≤ second then .error .outOfRange else
  let (offset, s) ← parseOffset s
  if 1440 ≤ offset.natAbs then .error .outOfRange else
  if !s.isEmpty then .error .tooLong else
  let seconds := date.toDays * 86400 + ((hour * 60 + minute) * 60 + second : Nat) - offset * 60
  match ofParts? seconds (if leap then 1000000000 + fraction else fraction) with
  | some i => .ok i
  | none => .error .outOfRange

/-- The instant that a timestamp names. -/
def parse (s : String) : Except ParseError Instant := parseChars s.toList

end Instant

end Credentials
