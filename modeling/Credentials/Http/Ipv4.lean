import Credentials.Text.Digit

/-!
# Addresses of four bytes

An address is written as up to four numbers with dots between them, of which the last one fills the bytes
that are left. A number may be decimal, octal behind a zero, or hexadecimal behind `0x`. A name whose last
part is a number has to be an address.
-/

namespace Credentials.Http.Ipv4

/-- The base in which a part is written, and its digits. -/
def digits (s : List Char) : Nat × List Char :=
  match s with
  | '0' :: 'x' :: rest => (16, rest)
  | '0' :: 'X' :: rest => (16, rest)
  | '0' :: c :: rest => (8, c :: rest)
  | _ => (10, s)

/-- The number that a part writes; there may be no digits behind `0x`, but there is a part. -/
def number? (s : List Char) : Option Nat :=
  let (base, ds) := digits s
  if s.isEmpty then none
  else
    ds.foldlM (fun n c => do
      let d ← Text.hexValue? c
      if d < base then return n * base + d else none) 0

/-- The parts of a name between its dots, without an empty one at its end. -/
def parts (s : List Char) : List (List Char) :=
  let all := s.splitOn '.'
  if all.getLast? = some [] then all.dropLast else all

/-- Whether the last part of a name is a number, in which case the name has to be an address. -/
def endsInNumber (s : List Char) : Bool :=
  match (parts s).getLast? with
  | none => false
  | some part => (!part.isEmpty && part.all Char.isDigit) || (number? part).isSome

/-- The address that numbers make, of which the first comes first. -/
def ofNumbers? (numbers : List Nat) : Option Nat :=
  match numbers.getLast? with
  | none => none
  | some last =>
    let bytes := numbers.dropLast
    if 3 < bytes.length ∨ bytes.any (255 < ·) ∨ 256 ^ (4 - bytes.length) ≤ last then none
    else some (bytes.foldl (fun n b => n * 256 + b) 0 * 256 ^ (4 - bytes.length) + last)

/-- The address that a name writes. -/
def ofChars? (s : List Char) : Option Nat := ((parts s).mapM number?).bind ofNumbers?

/-- The text of an address. -/
def text (n : Nat) : String :=
  ".".intercalate
    ([n / 2 ^ 24, n / 2 ^ 16 % 256, n / 2 ^ 8 % 256, n % 256].map toString)

end Credentials.Http.Ipv4
