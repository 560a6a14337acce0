/-!
# Punycode

A name that holds other characters than those of ASCII is written in ASCII: first its characters of ASCII
and a dash, then one number for each of the others, in the order of the characters and of their places. A
number counts the steps from one insertion to the next, and is written in digits of changing weight, the
lowest first. How the weights change depends on the numbers before, which `adapt` takes into account.
-/

namespace Credentials.Domain.Punycode

/-- Whether a character is one of ASCII. -/
def isBasic (c : Char) : Bool := c.toNat < 0x80

/-- The digit of a value below 36. -/
def digit (d : Nat) : Char :=
  if d < 26 then Char.ofNat ('a'.toNat + d) else Char.ofNat ('0'.toNat + (d - 26))

/-- The value of a digit. -/
def digitValue? (c : Char) : Option Nat :=
  if 'a' ≤ c ∧ c ≤ 'z' then some (c.toNat - 'a'.toNat)
  else if 'A' ≤ c ∧ c ≤ 'Z' then some (c.toNat - 'A'.toNat)
  else if '0' ≤ c ∧ c ≤ '9' then some (c.toNat - '0'.toNat + 26)
  else none

/-- The least digit that is not the last of its number, at the place of weight `k`. -/
def threshold (bias k : Nat) : Nat := min 26 (max 1 (k - bias))

theorem threshold_pos (bias k : Nat) : 0 < threshold bias k := by
  unfold threshold; omega

/-- How often a number is divided until it is small, in steps of a place, and what is left of it. -/
def reduce (n k : Nat) : Nat × Nat := if 455 < n then reduce (n / 35) (k + 36) else (n, k)
termination_by n
decreasing_by omega

/-- The bias behind a number, when `size` characters are there with the one that it inserts. -/
def adapt (n size : Nat) (isFirst : Bool) : Nat :=
  let scaled := if isFirst then n / 700 else n / 2
  let (m, k) := reduce (scaled + scaled / size) 0
  k + 36 * m / (m + 38)

/-- The digits of a number. -/
def number (bias k n : Nat) : List Char :=
  let t := threshold bias k
  if n < t then [digit n]
  else digit (t + (n - t) % (36 - t)) :: number bias (k + 36) ((n - t) / (36 - t))
termination_by n
decreasing_by
  have := threshold_pos bias k
  exact Nat.lt_of_le_of_lt (Nat.div_le_self _ _) (by omega)

/-- What has been written of a name. -/
structure Writer where
  /-- The digits, in order. -/
  digits : List Char := []
  /-- The steps since the last insertion. -/
  steps : Nat := 0
  bias : Nat := 72
  /-- How many characters are inserted, those of ASCII included. -/
  size : Nat

/-- Passes a character while those of number `point` are inserted. -/
def Writer.pass (basics point : Nat) (w : Writer) (c : Char) : Writer :=
  if c.toNat < point then { w with steps := w.steps + 1 }
  else if c.toNat = point then
    { digits := w.digits ++ number w.bias 36 w.steps
      steps := 0
      bias := adapt w.steps (w.size + 1) (w.size == basics)
      size := w.size + 1 }
  else w

/-- Inserts the characters of all numbers, of which the first is reached by steps from `point`. -/
def Writer.insertAll (s : List Char) (basics : Nat) (w : Writer) (point : Nat) : List Nat → Writer
  | [] => w
  | p :: ps =>
    let arrived := { w with steps := w.steps + (p - point) * (w.size + 1) }
    let passed := s.foldl (Writer.pass basics p) arrived
    Writer.insertAll s basics { passed with steps := passed.steps + 1 } (p + 1) ps

/-- A name in ASCII. -/
def encode (s : List Char) : List Char :=
  let basic := s.filter isBasic
  let points := ((s.filter fun c => !isBasic c).map Char.toNat).mergeSort.eraseDups
  let w := Writer.insertAll s basic.length { size := basic.length } 128 points
  if basic.isEmpty then w.digits else basic ++ '-' :: w.digits

/-- What has been read of a name. -/
structure Reader where
  chars : List Char
  /-- The number of the last character that was inserted. -/
  point : Nat := 128
  /-- The place of the next character, if it follows the last one. -/
  place : Nat := 0
  bias : Nat := 72
  /-- What has been read of the number at hand. -/
  sum : Nat := 0
  /-- The weight of its next digit. -/
  weight : Nat := 1
  /-- The place of its next digit. -/
  k : Nat := 36

/-- Inserts the character that the number at hand stands for. -/
def Reader.insert (r : Reader) : Option Reader :=
  let size := r.chars.length + 1
  let target := r.place + r.sum
  let point := r.point + target / size
  if point.isValidChar then
    some
      { chars := r.chars.insertIdx (target % size) (Char.ofNat point)
        point
        place := target % size + 1
        bias := adapt r.sum size (r.place == 0) }
  else none

/-- Reads a digit. -/
def Reader.step (r : Reader) (c : Char) : Option Reader := do
  let d ← digitValue? c
  let t := threshold r.bias r.k
  let r := { r with sum := r.sum + d * r.weight }
  if d < t then r.insert else return { r with weight := r.weight * (36 - t), k := r.k + 36 }

/-- The name that is written in ASCII; there is no dash in front of which nothing stands. -/
def decode? (s : List Char) : Option (List Char) := do
  let digits := (s.reverse.takeWhile (· ≠ '-')).reverse
  let basic := s.take (s.length - digits.length - 1)
  let r ← digits.foldlM Reader.step { chars := basic }
  if r.k = 36 ∧ ¬ (basic.isEmpty ∧ s.head? = some '-') then return r.chars else none

end Credentials.Domain.Punycode
