/-!
# Decoding bytes as UTF-8

`decode` reads bytes as characters and marks what is no character: each longest piece that could have
begun one, or else a single byte, becomes one `none`. A text is `strict?` when nothing is marked, and
`lossy` writes the replacement character for each mark. `byteCount` counts the bytes of a text.
-/

namespace Credentials.Text.Utf8

/-- Whether a byte continues a character. -/
def isContinuation (b : UInt8) : Bool := 0x80 ≤ b && b ≤ 0xBF

/-- Whether `b` may be the second byte of a character that starts with `a`. -/
def isSecond (a b : UInt8) : Bool :=
  if a == 0xE0 then 0xA0 ≤ b && b ≤ 0xBF
  else if a == 0xED then 0x80 ≤ b && b ≤ 0x9F
  else if a == 0xF0 then 0x90 ≤ b && b ≤ 0xBF
  else if a == 0xF4 then 0x80 ≤ b && b ≤ 0x8F
  else isContinuation b

/-- The six bits that a continuation byte carries. -/
def payload (b : UInt8) : Nat := b.toNat % 64

/-- The characters of a sequence of bytes, with `none` for each piece that is none. -/
def decode : List UInt8 → List (Option Char)
  | [] => []
  | a :: rest =>
    if a < 0x80 then some (Char.ofNat a.toNat) :: decode rest
    else if 0xC2 ≤ a && a ≤ 0xDF then
      match rest with
      | b :: rest =>
        if isSecond a b then some (Char.ofNat (a.toNat % 32 * 64 + payload b)) :: decode rest
        else none :: decode (b :: rest)
      | [] => [none]
    else if 0xE0 ≤ a && a ≤ 0xEF then
      match rest with
      | b :: c :: rest =>
        if isSecond a b then
          if isContinuation c then
            some (Char.ofNat ((a.toNat % 16 * 64 + payload b) * 64 + payload c)) :: decode rest
          else none :: decode (c :: rest)
        else none :: decode (b :: c :: rest)
      | [b] => if isSecond a b then [none] else none :: decode [b]
      | [] => [none]
    else if 0xF0 ≤ a && a ≤ 0xF4 then
      match rest with
      | b :: c :: d :: rest =>
        if isSecond a b then
          if isContinuation c then
            if isContinuation d then
              some (Char.ofNat (((a.toNat % 8 * 64 + payload b) * 64 + payload c) * 64 + payload d))
                :: decode rest
            else none :: decode (d :: rest)
          else none :: decode (c :: d :: rest)
        else none :: decode (b :: c :: d :: rest)
      | [b, c] =>
        if isSecond a b then
          if isContinuation c then [none] else none :: decode [c]
        else none :: decode [b, c]
      | [b] => if isSecond a b then [none] else none :: decode [b]
      | [] => [none]
    else none :: decode rest

/-- The size of a text in bytes. -/
def byteCount : List Char → Nat
  | [] => 0
  | c :: cs => c.utf8Size + byteCount cs

/-- The text of bytes that are UTF-8. -/
def strict? (bytes : List UInt8) : Option String :=
  ((decode bytes).mapM id).map String.ofList

/-- The text of any bytes, with U+FFFD for each piece that is no character. -/
def lossy (bytes : List UInt8) : String :=
  String.ofList ((decode bytes).map fun c => c.getD '\uFFFD')

end Credentials.Text.Utf8
