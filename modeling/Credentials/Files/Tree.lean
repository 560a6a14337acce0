import Credentials.Files.Basic

/-!
# Trees of files

A `FileTree` lists files and directories by their full paths; the directories above them exist too.
`FileTree.look` follows a path piece by piece, from the root or from the working directory.
-/

namespace Credentials

/-- A file, or a directory. -/
inductive FileNode
  | file (content : Content)
  | directory

/-- Files and directories, and the working directory. -/
structure FileTree where
  /-- Nodes by the names on the way from the root. -/
  nodes : List (List String × FileNode)
  /-- The working directory. -/
  current : List String

namespace FileTree

/-- The node at a full path; what lies above a node is a directory. -/
def node? (t : FileTree) (path : List String) : Option FileNode :=
  match t.nodes.lookup path with
  | some n => some n
  | none =>
    if path.isEmpty || path.isPrefixOf t.current || t.nodes.any fun n => path.isPrefixOf n.1 then
      some .directory
    else none

/-- The longest name of a file in bytes. -/
def maxName : Nat := 255

/-- The longest path in bytes. -/
def maxPath : Nat := 4095

/-- Follows the names that are left from a directory. -/
def walk (t : FileTree) : List String → List String → Entry
  | _, [] => .directory
  | dir, name :: rest =>
    if name = "" ∨ name = "." then walk t dir rest
    else if name = ".." then walk t dir.dropLast rest
    else if maxName < name.utf8ByteSize then .absent .nameTooLong
    else
      match t.node? (dir ++ [name]) with
      | none => .absent .notFound
      | some .directory => walk t (dir ++ [name]) rest
      | some (.file c) => if rest.isEmpty then .file c else .absent .notDirectory

/-- What a path leads to. -/
def look (t : FileTree) (path : String) : Entry :=
  let s := path.toList
  if s.contains '\x00' then .absent .nulInPath
  else if s.isEmpty then .absent .notFound
  else if maxPath < path.utf8ByteSize then .absent .nameTooLong
  else t.walk (if s.head? = some '/' then [] else t.current) ((s.splitOn '/').map String.ofList)

end FileTree

end Credentials
