import Credentials.Json.Basic
import Credentials.Text.Digit

/-!
# Writing JSON text

`Json.compact` writes no blanks, `Json.pretty` one member or item a line, indented by two spaces. Both
escape in strings only the quote, the backslash and the control characters below the space.
-/

namespace Credentials.Json

/-- A character as it stands in a string. -/
def escapeChar (c : Char) : List Char :=
  if c = '"' then ['\\', '"']
  else if c = '\\' then ['\\', '\\']
  else if c = '\x08' then ['\\', 'b']
  else if c = '\x0c' then ['\\', 'f']
  else if c = '\n' then ['\\', 'n']
  else if c = '\r' then ['\\', 'r']
  else if c = '\t' then ['\\', 't']
  else if c.toNat < 0x20 then
    ['\\', 'u', '0', '0', Text.lowerHex (c.toNat / 16), Text.lowerHex (c.toNat % 16)]
  else [c]

/-- A string between quotes. -/
def quote (s : String) : List Char := '"' :: s.toList.flatMap escapeChar ++ ['"']

namespace Tree

mutual

/-- The compact text of a tree. -/
def compact : Tree → List Char
  | .null => ['n', 'u', 'l', 'l']
  | .bool true => ['t', 'r', 'u', 'e']
  | .bool false => ['f', 'a', 'l', 's', 'e']
  | .number n => n.text.toList
  | .string s => quote s
  | .array items => '[' :: compactItems items ++ [']']
  | .object members => '{' :: compactMembers members ++ ['}']

/-- Items with commas between them. -/
def compactItems : List Tree → List Char
  | [] => []
  | [t] => t.compact
  | t :: ts => t.compact ++ ',' :: compactItems ts

/-- Members with commas between them. -/
def compactMembers : List (String × Tree) → List Char
  | [] => []
  | [(k, t)] => quote k ++ ':' :: t.compact
  | (k, t) :: ms => quote k ++ ':' :: t.compact ++ ',' :: compactMembers ms

end

/-- A new line at a level of indentation. -/
def newLine (level : Nat) : List Char := '\n' :: List.replicate (2 * level) ' '

mutual

/-- The indented text of a tree. -/
def pretty (level : Nat) : Tree → List Char
  | .array [] => ['[', ']']
  | .array items => '[' :: prettyItems (level + 1) items ++ newLine level ++ [']']
  | .object [] => ['{', '}']
  | .object members => '{' :: prettyMembers (level + 1) members ++ newLine level ++ ['}']
  | .null => ['n', 'u', 'l', 'l']
  | .bool true => ['t', 'r', 'u', 'e']
  | .bool false => ['f', 'a', 'l', 's', 'e']
  | .number n => n.text.toList
  | .string s => quote s

/-- Items, each on a line of its own. -/
def prettyItems (level : Nat) : List Tree → List Char
  | [] => []
  | [t] => newLine level ++ pretty level t
  | t :: ts => newLine level ++ pretty level t ++ ',' :: prettyItems level ts

/-- Members, each on a line of its own. -/
def prettyMembers (level : Nat) : List (String × Tree) → List Char
  | [] => []
  | [(k, t)] => newLine level ++ quote k ++ ':' :: ' ' :: pretty level t
  | (k, t) :: ms =>
    newLine level ++ quote k ++ ':' :: ' ' :: pretty level t ++ ',' :: prettyMembers level ms

end

end Tree

/-- The text of a value without blanks. -/
def compact (j : Json) : String := String.ofList j.tree.compact

/-- The text of a value with a line for each member and item. -/
def pretty (j : Json) : String := String.ofList (j.tree.pretty 0)

end Credentials.Json
