import Credentials.Binary64.Basic
import Credentials.Instant.Basic
import Credentials.Text.Digit
import Credentials.Toml.Text
import Credentials.Toml.Tree

/-!
# Numbers and dates in TOML

Whole numbers fit in 64 bits with a sign; an underscore may stand between two digits. A number with a
fraction or an exponent is no larger than the largest double, but it may be smaller than the smallest. A
date, a time or both must exist, apart from the second 60.
-/

namespace Credentials.Toml

/-- Digits that satisfy `p`, with single underscores between them. -/
def digits (p : Char → Bool) : List Char → Option (List Char × List Char)
  | [] => none
  | c :: s =>
    if p c then
      match s with
      | '_' :: t =>
        match digits p t with
        | some (cs, rest) => some (c :: cs, rest)
        | none => some ([c], '_' :: t)
      | s =>
        match digits p s with
        | some (cs, rest) => some (c :: cs, rest)
        | none => some ([c], s)
    else none

/-- Whether a number is negative, and the text behind its sign. -/
def sign : List Char → Bool × List Char
  | '+' :: s => (false, s)
  | '-' :: s => (true, s)
  | s => (false, s)

/-- The digits of a whole number, which do not start with a zero unless it is the only one. -/
def wholeDigits (s : List Char) : Option (List Char × List Char) :=
  match s with
  | '0' :: rest => some (['0'], rest)
  | s => digits Char.isDigit s

/-- The digits of a fraction behind a whole number, if there is one. -/
def fraction : List Char → Option (List Char × List Char)
  | '.' :: s => digits Char.isDigit s
  | _ => none

/-- An exponent. -/
def exponent (s : List Char) : Option (Int × List Char) :=
  let value (s : List Char) : Option (Int × List Char) :=
    (digits Char.isDigit (sign s).2).map fun r =>
      ((if (sign s).1 then -(Text.decimal r.1 : Int) else Text.decimal r.1), r.2)
  match s with
  | 'e' :: s => value s
  | 'E' :: s => value s
  | _ => none

/--
Whether a double is near digits that are followed by as many zeros as the exponent says. The first digit
that is not zero decides, unless it is the one of the largest double.
-/
def fitsDouble (ds : List Char) (exponent : Int) : Bool :=
  let ds := ds.dropWhile (· == '0')
  let places := ds.length + exponent
  if ds.isEmpty ∨ places ≤ 308 then true
  else if 309 < places then false
  else
    match exponent with
    | .ofNat k => (Binary64.ofRatio? (Text.decimal ds * 10 ^ k) 1).isSome
    | .negSucc k => (Binary64.ofRatio? (Text.decimal ds) (10 ^ (k + 1))).isSome

/-- A number that is not whole. One that is too large stands for infinity, but only if it is negative. -/
def float (s : List Char) : Option (Tree × List Char) :=
  match (sign s).2 with
  | 'i' :: 'n' :: 'f' :: rest => some (.float, rest)
  | 'n' :: 'a' :: 'n' :: rest => some (.float, rest)
  | t => do
    let (whole, rest) ← wholeDigits t
    let (part, e, rest) ←
      match fraction rest with
      | some (part, rest) =>
        match exponent rest with
        | some (e, rest) => some (part, e, rest)
        | none => some (part, 0, rest)
      | none => (exponent rest).map fun r => ([], r.1, r.2)
    if (sign s).1 ∨ fitsDouble (whole ++ part) (e - part.length) then return (.float, rest) else none

/-- A whole number that fits. -/
def bounded? (n : Int) (rest : List Char) : Option (Tree × List Char) :=
  if -9223372036854775808 ≤ n ∧ n ≤ 9223372036854775807 then some (.integer n, rest) else none

/-- A whole number in a base other than ten, behind its mark. -/
def based (base : Nat) (s : List Char) : Option (Tree × List Char) := do
  let isDigit := fun c => ((Text.hexValue? c).getD base) < base
  let (cs, rest) ← digits isDigit s
  bounded? (cs.foldl (fun n c => n * base + (Text.hexValue? c).getD 0) 0 : Nat) rest

/-- A whole number. -/
def integer (s : List Char) : Option (Tree × List Char) :=
  match s with
  | '0' :: 'x' :: s => based 16 s
  | '0' :: 'o' :: s => based 8 s
  | '0' :: 'b' :: s => based 2 s
  | s => do
    let (negative, s) := sign s
    let (cs, rest) ← wholeDigits s
    let n : Int := Text.decimal cs
    bounded? (if negative then -n else n) rest

/-- A number of a fixed count of digits, within bounds. -/
def field (count low high : Nat) (s : List Char) : Option (Nat × List Char) :=
  let cs := s.take count
  let n := Text.decimal cs
  if cs.length = count ∧ cs.all Char.isDigit ∧ low ≤ n ∧ n ≤ high then some (n, s.drop count)
  else none

/-- The text behind a character. -/
def mark (c : Char) (s : List Char) : Option (List Char) :=
  if s.head? = some c then some (s.drop 1) else none

/-- A date. -/
def date (s : List Char) : Option (List Char) := do
  let (year, s) ← field 4 0 9999 s
  let s ← mark '-' s
  let (month, s) ← field 2 1 12 s
  let s ← mark '-' s
  let (day, s) ← field 2 1 31 s
  if (⟨year, month, day⟩ : Date).isValid then return s else none

/-- A time of day. -/
def time (s : List Char) : Option (List Char) := do
  let (_, s) ← field 2 0 23 s
  let s ← mark ':' s
  let (_, s) ← field 2 0 59 s
  let s ← mark ':' s
  let (_, s) ← field 2 0 60 s
  match s with
  | '.' :: c :: rest => if c.isDigit then return rest.dropWhile Char.isDigit else none
  | '.' :: [] => none
  | s => return s

/-- An offset from UTC behind a time, which may be absent. -/
def offset (s : List Char) : Option (List Char) :=
  match s with
  | 'Z' :: s => some s
  | 'z' :: s => some s
  | c :: rest =>
    if c = '+' ∨ c = '-' then do
      let (_, s) ← field 2 0 23 rest
      let s ← mark ':' s
      let (_, s) ← field 2 0 59 s
      return s
    else some (c :: rest)
  | [] => some []

/-- A date, a time, or a date with a time. -/
def dateOrTime (s : List Char) : Option (Tree × List Char) :=
  match date s with
  | none => (time s).map fun rest => (.date, rest)
  | some rest =>
    match rest with
    | c :: after =>
      if c = 'T' ∨ c = 't' ∨ c = ' ' then
        match field 2 0 23 after with
        | none => some (.date, rest)
        | some _ => do
          let rest ← time after
          let rest ← offset rest
          return (.date, rest)
      else some (.date, rest)
    | [] => some (.date, [])

/-- A date or a number. -/
def scalar (s : List Char) : Option (Tree × List Char) :=
  match dateOrTime s with
  | some r => some r
  | none =>
    match float s with
    | some r => some r
    | none => integer s

end Credentials.Toml
