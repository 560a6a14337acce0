import Credentials.Toml.Number

/-!
# Reading TOML

`read?` returns the members of the root table of a document, or nothing when the text is no TOML or
breaks the rules for tables. At most 79 arrays and tables in braces may be nested.
-/

namespace Credentials.Toml

mutual

/-- A value. The first argument bounds the steps and the second is how deep it may still nest. -/
def value : Nat → Nat → List Char → Option (Tree × List Char)
  | 0, _, _ => none
  | n + 1, room, s =>
    match s with
    | '"' :: _ => (string s).map fun r => (.string (String.ofList r.1), r.2)
    | '\'' :: _ => (string s).map fun r => (.string (String.ofList r.1), r.2)
    | 't' :: 'r' :: 'u' :: 'e' :: rest => some (.boolean true, rest)
    | 'f' :: 'a' :: 'l' :: 's' :: 'e' :: rest => some (.boolean false, rest)
    | '[' :: rest =>
      match room with
      | 0 => none
      | room + 1 => (items n room rest).map fun r => (.array r.1, r.2)
    | '{' :: rest =>
      match room with
      | 0 => none
      | room + 1 =>
        match skipBlanks rest with
        | '}' :: rest => some (.table .braced [], rest)
        | rest => (pairs n room [] rest).map fun r => (.table .braced r.1, r.2)
    | s => scalar s

/-- The items of an array up to its closing bracket. -/
def items : Nat → Nat → List Char → Option (List Tree × List Char)
  | 0, _, _ => none
  | n + 1, room, s =>
    match skipLines (s.length + 1) s with
    | ']' :: rest => some ([], rest)
    | s =>
      match value n room s with
      | none => none
      | some (v, rest) =>
        match skipLines (rest.length + 1) rest with
        | ']' :: rest => some ([v], rest)
        | ',' :: rest => (items n room rest).map fun r => (v :: r.1, r.2)
        | _ => none

/-- The members of a table in braces up to its closing brace, added to those read before. -/
def pairs : Nat → Nat → Members → List Char → Option (Members × List Char)
  | 0, _, _, _ => none
  | n + 1, room, ms, s =>
    match key s with
    | some ((path, last), '=' :: rest) =>
      match value n room (skipBlanks rest) with
      | none => none
      | some (v, rest) =>
        match ms.assign path last v with
        | none => none
        | some ms =>
          match skipBlanks rest with
          | '}' :: rest => some (ms, rest)
          | ',' :: rest => pairs n room ms rest
          | _ => none
    | _ => none

end

/-- How many arrays and tables in braces may be nested. -/
def maxDepth : Nat := 79

/-- Enough steps for a text: no character takes more than two. -/
def stepsFor (s : List Char) : Nat := 2 * s.length + 2

/-- What was read of a document. -/
structure Progress where
  root : Members
  /-- The table to which keys are added. -/
  current : List String

/-- The document with the table of a header opened, behind its bracket. -/
def header (p : Progress) (s : List Char) : Option (Progress × List Char) := do
  match s with
  | '[' :: s =>
    let ((path, last), s) ← key s
    let s ← mark ']' s
    let s ← mark ']' s
    return (⟨← p.root.openItem path last, path ++ [last]⟩, s)
  | s =>
    let ((path, last), s) ← key s
    let s ← mark ']' s
    return (⟨← p.root.openTable path last, path ++ [last]⟩, s)

/-- The document with a key and its value added. -/
def assignment (p : Progress) (s : List Char) : Option (Progress × List Char) := do
  let ((path, last), s) ← key s
  let s ← mark '=' s
  let (v, s) ← value (stepsFor s) maxDepth (skipBlanks s)
  return (⟨← p.root.assignAt p.current path last v, p.current⟩, s)

/-- What a line holds besides blanks and a comment. -/
def line (p : Progress) (s : List Char) : Option (Progress × List Char) :=
  match skipBlanks s with
  | [] => some (p, [])
  | '\n' :: s => some (p, '\n' :: s)
  | '\r' :: s => some (p, '\r' :: s)
  | '#' :: s => some (p, '#' :: s)
  | '[' :: s => header p s
  | s => assignment p s

/-- Reads at most `n` lines. -/
def lines : Nat → Progress → List Char → Option Members
  | 0, _, _ => none
  | n + 1, p, s =>
    if s.isEmpty then some p.root
    else
      match line p s with
      | none => none
      | some (p, s) =>
        match restOfLine? s with
        | none => none
        | some s => lines n p s

/-- The members of the root table of a document; a byte order mark in front does not count. -/
def read? (text : String) : Option Members :=
  let s := text.toList
  let s := if s.head? = some '\uFEFF' then s.drop 1 else s
  lines (s.length + 1) ⟨[], []⟩ s

end Credentials.Toml
