import Credentials.Text.Digit

/-!
# Addresses of sixteen bytes

An address is written as eight pieces of up to four hexadecimal digits with colons between them. The last
two pieces may be written as four decimal bytes, and two colons in a row stand for as many zeros as are
missing, at least one. The text of an address has two colons for the longest row of zeros.
-/

namespace Credentials.Http.Ipv6

/-- A byte in decimal digits, without zeros in front. -/
def byte? (s : List Char) : Option Nat :=
  let n := Text.decimal s
  if s.isEmpty || !s.all Char.isDigit || 255 < n then none
  else if 1 < s.length && s.head? == some '0' then none
  else some n

/-- The two pieces that four bytes with dots between them make. -/
def pair? (s : List Char) : Option (List Nat) := do
  match ← (s.splitOn '.').mapM byte? with
  | [a, b, c, d] => return [a * 256 + b, c * 256 + d]
  | _ => none

/-- A piece. -/
def piece? (s : List Char) : Option Nat :=
  if s.isEmpty || 4 < s.length then none
  else s.foldlM (fun n c => do return n * 16 + (← Text.hexValue? c)) 0

/-- The pieces that words stand for; the last word may be four bytes, if it may be the last of all. -/
def pieces? (isLast : Bool) : List (List Char) → Option (List Nat)
  | [] => some []
  | [word] =>
    if isLast && word.contains '.' then pair? word else (piece? word).map fun p => [p]
  | word :: rest => do return (← piece? word) :: (← pieces? isLast rest)

/-- The pieces of one side of two colons, which may be empty. -/
def side? (isLast : Bool) (s : List Char) : Option (List Nat) :=
  if s.isEmpty then some [] else pieces? isLast (s.splitOn ':')

/-- The texts in front of and behind the first two colons in a row, if there are any. -/
def halves : List Char → List Char × Option (List Char)
  | ':' :: ':' :: rest => ([], some rest)
  | c :: rest => (c :: (halves rest).1, (halves rest).2)
  | [] => ([], none)

/-- The eight pieces of an address. -/
def ofChars? (s : List Char) : Option (List Nat) := do
  match halves s with
  | (all, none) =>
    let pieces ← pieces? true (all.splitOn ':')
    if pieces.length = 8 then return pieces else none
  | (before, some behind) =>
    let front ← side? false before
    let back ← side? true behind
    let missing := 8 - (front.length + back.length)
    if missing = 0 then none else return front ++ List.replicate missing 0 ++ back

/-- The digits of a piece. -/
def pieceText (n : Nat) : List Char := (Nat.toDigits 16 n)

/-- Pieces with colons between them. -/
def plainText (pieces : List Nat) : List Char := [':'].intercalate (pieces.map pieceText)

/-- The place and the length of the longest row of zeros from a place on; the first of equal ones. -/
def longestZeros (place : Nat) : List Nat → Nat × Nat
  | [] => (place, 0)
  | n :: rest =>
    let here := ((n :: rest).takeWhile (· == 0)).length
    let later := longestZeros (place + 1) rest
    if later.2 ≤ here then (place, here) else later

/-- The text of an address. -/
def text (pieces : List Nat) : String :=
  let (place, length) := longestZeros 0 pieces
  String.ofList
    (if length < 2 then plainText pieces
    else plainText (pieces.take place) ++ ':' :: ':' :: plainText (pieces.drop (place + length)))

end Credentials.Http.Ipv6
