/-!
# TOML documents

A document is a tree of tables. How a table came about decides what may be added to it later: a table in
braces is closed, one with a header of its own takes no dotted keys from elsewhere, and one that was only
named on the way to another may still get its header. `Members.openTable`, `Members.openItem` and
`Members.assign` build a document and return nothing where these rules are broken.
-/

namespace Credentials.Toml

/-- How a table came about. -/
inductive Style
  /-- Written in braces. -/
  | braced
  /-- Named on the way to another table. -/
  | implied
  /-- Made by a dotted key. -/
  | dotted
  /-- Opened by a header. -/
  | headed
deriving DecidableEq

/-- A value. Of the numbers that are not whole and of dates only the sort is kept. -/
inductive Tree
  | string (s : String)
  | integer (n : Int)
  | float
  | boolean (b : Bool)
  | date
  | array (items : List Tree)
  | table (style : Style) (members : List (String × Tree))
  /-- Tables that were opened by headers of items, in order. -/
  | tables (items : List (List (String × Tree)))

/-- The members of a table in order. -/
abbrev Members := List (String × Tree)

namespace Members

/-- Members with another value for a key. -/
def replace (ms : Members) (key : String) (t : Tree) : Members :=
  ms.map fun m => if m.1 = key then (key, t) else m

/--
Changes the members of the table at the end of a path. Tables on the way that are missing are made, and of
tables that are items the last one counts. A dotted path does not lead through a table with a header.
-/
def within (dotted : Bool) (change : Style → Members → Option Members) :
    Style → List String → Members → Option Members
  | style, [], ms => change style ms
  | _, key :: path, ms =>
    match ms.lookup key with
    | none =>
      let style := if dotted then Style.dotted else .implied
      (within dotted change style path []).map fun inner => ms ++ [(key, .table style inner)]
    | some (.table style inner) =>
      if style = .braced ∨ (dotted ∧ style = .headed) then none
      else (within dotted change style path inner).map fun inner => ms.replace key (.table style inner)
    | some (.tables items) =>
      match items.getLast? with
      | none => none
      | some last =>
        (within dotted change .headed path last).map fun inner =>
          ms.replace key (.tables (items.dropLast ++ [inner]))
    | some _ => none

/-- Opens a table by its header. -/
def openTable (ms : Members) (path : List String) (key : String) : Option Members :=
  within false
    (fun _ ms =>
      match ms.lookup key with
      | none => some (ms ++ [(key, .table .headed [])])
      | some (.table .implied inner) => some (ms.replace key (.table .headed inner))
      | some _ => none)
    .headed path ms

/-- Opens one more item of an array of tables by its header. -/
def openItem (ms : Members) (path : List String) (key : String) : Option Members :=
  within false
    (fun _ ms =>
      match ms.lookup key with
      | none => some (ms ++ [(key, .tables [[]])])
      | some (.tables items) => some (ms.replace key (.tables (items ++ [[]])))
      | some _ => none)
    .headed path ms

/-- Gives a value to a dotted key; the table that takes it was made by a dotted key too. -/
def assign (ms : Members) (path : List String) (key : String) (t : Tree) : Option Members :=
  within true
    (fun style ms =>
      if path.isEmpty ∨ style = .dotted then
        match ms.lookup key with
        | none => some (ms ++ [(key, t)])
        | some _ => none
      else none)
    .headed path ms

/-- Gives a value to a dotted key in the table at a path. -/
def assignAt (ms : Members) (current path : List String) (key : String) (t : Tree) :
    Option Members :=
  within false (fun _ inner => assign inner path key t) .headed current ms

end Members

end Credentials.Toml
