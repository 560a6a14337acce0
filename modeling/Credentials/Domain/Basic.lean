import Credentials.Domain.Label

/-!
# Names of hosts

`Domain.ascii?` writes the name of a host in ASCII, in the way of the standard for names beyond ASCII:
every character is replaced by what it stands for, the whole is composed, and the labels between the dots
are checked and written one by one.
-/

namespace Credentials.Domain

/-- Whether a character of ASCII may not stand in a name. -/
def isForbidden (c : Char) : Bool :=
  c.toNat ≤ 0x20 || c.toNat == 0x7F
    || ['%', '#', '/', ':', '<', '>', '?', '@', '[', '\\', ']', '^', '|'].contains c

/-- A name in plain form, unless something may not stand in it. -/
def plainForm? (s : List Char) : Option (List Char) := do
  let images ← s.mapM image?
  let plain := Unicode.compose images.flatten
  if plain.any isForbidden then none else return plain

/-- A name in ASCII. -/
def ascii? (s : List Char) : Option (List Char) := do
  let labels ← ((← plainForm? s).splitOn '.').mapM Label.ofChars?
  if labels.any Label.isTurned && !labels.all Label.keepsDirection then none
  else return ['.'].intercalate (labels.map Label.ascii)

end Credentials.Domain
