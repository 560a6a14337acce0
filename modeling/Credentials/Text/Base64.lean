import Credentials.Text.Digit

/-!
# Base 64

Three bytes are written as four characters of six bits each; what is missing of the last three bytes is
filled with `=`.
-/

namespace Credentials.Text.Base64

/-- The character for six bits: letters, digits, `+` and `/`. -/
def digit (n : Nat) : Char :=
  if n < 26 then Char.ofNat ('A'.toNat + n)
  else if n < 52 then Char.ofNat ('a'.toNat + (n - 26))
  else if n < 62 then Char.ofNat ('0'.toNat + (n - 52))
  else if n = 62 then '+'
  else '/'

/-- The first, the second, the third or the fourth six bits of three bytes. -/
def sixth (a b c : UInt8) (place : Nat) : Char :=
  digit ((a.toNat * 2 ^ 16 + b.toNat * 2 ^ 8 + c.toNat) / 2 ^ (18 - 6 * place) % 64)

/-- The characters of a sequence of bytes. -/
def encode : List UInt8 → List Char
  | [] => []
  | [a] => [sixth a 0 0 0, sixth a 0 0 1, '=', '=']
  | [a, b] => [sixth a b 0 0, sixth a b 0 1, sixth a b 0 2, '=']
  | a :: b :: c :: rest =>
    sixth a b c 0 :: sixth a b c 1 :: sixth a b c 2 :: sixth a b c 3 :: encode rest

end Credentials.Text.Base64
