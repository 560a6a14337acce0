import Credentials.Binary64.Basic
import Credentials.Text.Digit

/-!
# The shortest decimal that reads back

The reals that round to a double form an interval around it, which holds its ends exactly when the
double's rank is even. For one digit, two digits and so on the two neighbours of the double on that
decimal grid are tried; the first grid with a neighbour inside the interval gives the text, and of two
such neighbours the nearer; if both are as near, the even one.
-/

namespace Credentials

/-- The number `digits · 10 ^ exponent`. -/
structure Decimal where
  /-- The digits read as one whole number. -/
  digits : Nat
  /-- The power of ten that the last digit stands for. -/
  exponent : Int
deriving DecidableEq

namespace Binary64

/-- Twice the ends of the interval of multiples of `2 ^ -1074` that round to rank `r`. -/
def doubledEnds (r : Nat) : Nat × Nat :=
  (unitsAt (r - 1) + unitsAt r, unitsAt r + unitsAt (r + 1))

/-- Whether `d · a / b` units round to rank `r`. -/
def roundsTo (r d a b : Nat) : Bool :=
  let point := 2 * d * a
  let (low, high) := doubledEnds r
  if r % 2 = 0 then low * b ≤ point && point ≤ high * b
  else low * b < point && point < high * b

/-- The neighbour of rank `r` on the grid of multiples of `10 ^ e`, if one rounds to `r`. -/
def onGrid? (r : Nat) (e : Int) : Option Nat :=
  let a := 2 ^ 1074 * 10 ^ e.toNat
  let b := 10 ^ (-e).toNat
  let u := unitsAt r * b
  let below := u / a
  match roundsTo r below a b, roundsTo r (below + 1) a b with
  | true, true => some (roundHalfEven u a)
  | true, false => some below
  | false, true => some (below + 1)
  | false, false => none

/-- The power of ten that the first digit of rank `r` stands for. -/
def leadingExponent (r : Nat) : Int :=
  (Nat.toDigits 10 (unitsAt r * 10 ^ 400 / 2 ^ 1074)).length - 401

/-- The first grid from `top` downwards, at most `tries` of them, with a neighbour of rank `r`. -/
def shortestFrom (r : Nat) (top : Int) : Nat → Decimal
  | 0 => ⟨unitsAt r, top⟩
  | tries + 1 =>
    match onGrid? r top with
    | some d => ⟨d, top⟩
    | none => shortestFrom r (top - 1) tries

/-- The magnitude of a number with the fewest digits that read back; seventeen always do. -/
def shortest (x : Binary64) : Decimal :=
  if x.rank = 0 then ⟨0, 0⟩ else shortestFrom x.rank (leadingExponent x.rank) 18

end Binary64

namespace Decimal

/-- The digits without trailing zeros, and the power of ten that the first of them stands for. -/
def scientific (d : Decimal) : List Char × Int :=
  let all := Nat.toDigits 10 d.digits
  let kept := (all.reverse.dropWhile (· == '0')).reverse
  (if kept.isEmpty then ['0'] else kept, d.exponent + (all.length - 1))

end Decimal

namespace Binary64

/-- Zeros to write in a place that no digit reaches. -/
def zeros (n : Nat) : List Char := List.replicate n '0'

/--
The text of a number: plain, with a fraction of at least one digit, when its first digit stands for a
power of ten from `-5` to `15`; otherwise one digit, the rest after a point, and a signed exponent.
-/
def text (x : Binary64) : String :=
  let (digits, e) := x.shortest.scientific
  let body : List Char :=
    if x.rank = 0 then ['0', '.', '0']
    else if -5 ≤ e ∧ e < 0 then '0' :: '.' :: zeros ((-e).toNat - 1) ++ digits
    else if 0 ≤ e ∧ e ≤ 15 then
      let whole := digits.take (e.toNat + 1)
      let rest := digits.drop (e.toNat + 1)
      whole ++ zeros (e.toNat + 1 - whole.length) ++ '.' :: (if rest.isEmpty then ['0'] else rest)
    else
      let rest := digits.drop 1
      digits.take 1 ++ (if rest.isEmpty then [] else '.' :: rest)
        ++ 'e' :: (if e < 0 then '-' else '+') :: Nat.toDigits 10 e.natAbs
  String.ofList (if x.negative then '-' :: body else body)

end Binary64

end Credentials
