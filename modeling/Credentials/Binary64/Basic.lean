import Credentials.Text.Digit

/-!
# Finite numbers of double precision

Every finite double is a whole multiple of `2 ^ -1074`, so the non-negative ones form a list that
starts at zero and can be counted. A `Binary64` is a sign and such a count, its `rank`; `units` is
the multiple it stands for. Rounding is done once and exactly: `ofRatio?` takes any ratio of natural
numbers to the nearest rank, and products and quotients are the rounded exact ones.
-/

namespace Credentials

/-- A finite double: a sign and its place among the non-negative finite doubles. -/
structure Binary64 where
  /-- Whether the number carries a minus sign; zero may. -/
  negative : Bool
  /-- How many non-negative doubles are smaller in magnitude. -/
  rank : Nat
  /-- There are `2047 * 2 ^ 52` finite magnitudes. -/
  rank_lt : rank < 2047 * 2 ^ 52
deriving DecidableEq

namespace Binary64

/-- The magnitude of rank `r` as a multiple of `2 ^ -1074`. -/
def unitsAt (r : Nat) : Nat :=
  if r < 2 ^ 52 then r else (2 ^ 52 + r % 2 ^ 52) * 2 ^ (r / 2 ^ 52 - 1)

/-- The magnitude of a number as a multiple of `2 ^ -1074`. -/
def units (x : Binary64) : Nat := unitsAt x.rank

/-- The zero without a sign. -/
def zero : Binary64 := ⟨false, 0, by decide⟩

/-- The same magnitude with the opposite sign. -/
def negate (x : Binary64) : Binary64 := { x with negative := !x.negative }

/-- Two doubles are equal as numbers: the two zeros are the same number. -/
def same (x y : Binary64) : Bool :=
  x.rank == y.rank && (x.negative == y.negative || x.rank == 0)

/-- The whole number nearest to `n / d`, a half going to the even neighbour. -/
def roundHalfEven (n d : Nat) : Nat :=
  let q := n / d
  let r := n % d
  if 2 * r < d then q
  else if d < 2 * r then q + 1
  else if q % 2 = 0 then q else q + 1

/-- The rank of the double nearest to `n / d`, unbounded above. -/
def rankOfRatio (n d : Nat) : Nat :=
  let scaled := n * 2 ^ 1074
  let shift := (scaled / d).log2 - 52
  shift * 2 ^ 52 + roundHalfEven scaled (d * 2 ^ shift)

/-- The double nearest to `n / d`; `none` when that lies beyond the largest finite one. -/
def ofRatio? (n d : Nat) : Option Binary64 :=
  if h : rankOfRatio n d < 2047 * 2 ^ 52 then some ⟨false, rankOfRatio n d, h⟩ else none

/-- The double nearest to `10 ^ k`, saturated at the largest finite one. -/
def powerOfTen (k : Nat) : Binary64 := (ofRatio? (10 ^ k) 1).getD ⟨false, 2047 * 2 ^ 52 - 1, by decide⟩

/-- The rounded product of two magnitudes. -/
def mul? (x y : Binary64) : Option Binary64 := ofRatio? (x.units * y.units) (2 ^ 2148)

/-- The rounded quotient of two magnitudes. -/
def div? (x y : Binary64) : Option Binary64 := ofRatio? x.units y.units

/-- Divides by `10 ^ k`, in steps of `10 ^ 308` while the exponent is larger than that. -/
def divPowerOfTen (x : Binary64) (k : Nat) : Binary64 :=
  if k ≤ 308 then (x.div? (powerOfTen k)).getD zero
  else if x.rank = 0 then x
  else divPowerOfTen ((x.div? (powerOfTen 308)).getD zero) (k - 308)
termination_by k

/--
The double written as `significand · 10 ^ exponent`: the significand is rounded first and then
multiplied or divided by a rounded power of ten, so there are two roundings. `none` when the result is
too large.
-/
def ofDecimal? (significand : Nat) (exponent : Int) : Option Binary64 :=
  (ofRatio? significand 1).bind fun s =>
    match exponent with
    | .ofNat k =>
      if k ≤ 308 then s.mul? (powerOfTen k)
      else if s.rank = 0 then some s else none
    | .negSucc k => some (divPowerOfTen s (k + 1))

end Binary64

end Credentials
