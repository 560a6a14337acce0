/-!
# White space

The characters with the Unicode property `White_Space`, and trimming by it.
-/

namespace Credentials.Text

/-- Whether a character has the Unicode property `White_Space`. -/
def isBlank (c : Char) : Bool :=
  let n := c.toNat
  (9 ≤ n && n ≤ 13) || n == 0x20 || n == 0x85 || n == 0xA0 || n == 0x1680
    || (0x2000 ≤ n && n ≤ 0x200A) || n == 0x2028 || n == 0x2029 || n == 0x202F || n == 0x205F
    || n == 0x3000

/-- Removes from both ends the characters that satisfy `p`. -/
def trimBoth (p : Char → Bool) (s : List Char) : List Char :=
  ((s.dropWhile p).reverse.dropWhile p).reverse

/-- A text without white space at its ends. -/
def trim (s : String) : String := String.ofList (trimBoth isBlank s.toList)

/-- Whether a text is white space only. -/
def isAllBlank (s : String) : Bool := s.toList.all isBlank

end Credentials.Text
