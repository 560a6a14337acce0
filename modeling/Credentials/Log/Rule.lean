import Credentials.Log.Basic
import Credentials.Log.Pattern
import Credentials.Text.Blank
import Credentials.Text.Utf8
import Credentials.Unicode.Alphanumeric

/-!
# Rules about the log

A rule is a level for everything, or a name, which shows all lines whose area has a path that begins with
it, perhaps with a level behind an equals sign. Between name and level a span may stand in brackets, and in
the span names of fields in braces, which may have values. `LogRule.ofString?` finds the parts in the text
without the blanks around it, but cuts them at the same places out of the whole text.
-/

namespace Credentials

/-- A field that a rule asks for. -/
structure FieldRule where
  name : String
  /-- The value that the field must have, if it is not any. -/
  value : Option String
deriving DecidableEq

/-- A rule about which lines are shown. -/
structure LogRule where
  /-- What the path of the area begins with. -/
  target : Option String := none
  /-- The span in which the line is written. -/
  span : Option String := none
  /-- The fields that the line or the span has. -/
  fields : List FieldRule := []
  /-- The least rank that is shown; nothing has a rank above `4`. -/
  least : Nat := 0
deriving DecidableEq

namespace LogRule

/-- The least rank that the number of a level shows; `5` is above all ranks. -/
def leastOfNumber? (n : Nat) : Option Nat := if n ≤ 5 then some (5 - n) else none

/-- A number, with or without a plus sign. -/
def number? (s : List Char) : Option Nat :=
  let digits := match s with
    | '+' :: rest => rest
    | _ => s
  if !digits.isEmpty && digits.all Char.isDigit then some (Text.decimal digits) else none

/-- The least rank that a level shows, by its number or by its word in any case. -/
def least? (s : List Char) : Option Nat :=
  match number? s with
  | some n => leastOfNumber? n
  | none =>
    let word := String.ofList (s.map Char.toLower)
    if word = "trace" then some 0
    else if word = "debug" then some 1
    else if word = "info" then some 2
    else if word = "warn" then some 3
    else if word = "error" then some 4
    else if word = "off" then some 5
    else none

/-- Whether a character may begin a name or a level. -/
def beginsWord (c : Char) : Bool := Unicode.isAlphanumeric c || c == '_' || c == ':' || c == '-'

/-- A field as it is written. -/
def field? (s : List Char) : Option FieldRule :=
  let name := String.ofList (s.takeWhile (· ≠ '='))
  match s.dropWhile (· ≠ '=') with
  | [] => if s.isEmpty then none else some ⟨name, none⟩
  | _ :: rest =>
    let value := rest.takeWhile (· ≠ '=')
    if Pattern.isAccepted value then some ⟨name, some (String.ofList value)⟩ else none

/-- Where the reader of a rule stands, with the place at which the part begins that it reads. -/
inductive Part
  | start
  | word (first : Nat)
  | span (first : Nat)
  | field (first : Nat)
  | behindFields
  | behindSpan
  | level (first : Nat)

/-- The text between two places, counted in bytes. -/
def cut? (text : List Char) (first last : Nat) : Option (List Char) :=
  let bytes := (String.ofList text).toUTF8.toList
  (Text.Utf8.strict? ((bytes.take last).drop first)).map String.toList

/-- The text from a place on. -/
def cutFrom? (text : List Char) (first : Nat) : Option (List Char) :=
  cut? text first (String.ofList text).utf8ByteSize

/-- What a character at a place makes of a rule. -/
def step (text : List Char) (r : LogRule) (i : Nat) (c : Char) : Part → Option (Part × LogRule)
  | .start =>
    if c = '[' then some (.span (i + 1), r)
    else if beginsWord c then some (.word i, r)
    else none
  | .word first =>
    if c = '=' then do
      return (.level (i + 1), { r with target := some (String.ofList (← cut? text first i)) })
    else if c = '[' then do
      return (.span (i + 1), { r with target := some (String.ofList (← cut? text first i)) })
    else some (.word first, r)
  | .span first =>
    if c = ']' then do
      return (.behindSpan, { r with span := some (String.ofList (← cut? text first i)) })
    else if c = '\x7b' then do
      let name ← cut? text first i
      return (.field (i + 1),
        { r with span := if name.isEmpty then none else some (String.ofList name) })
    else some (.span first, r)
  | .field first =>
    if c = '\x7d' then do
      return (.behindFields, { r with fields := r.fields ++ [← field? (← cut? text first i)] })
    else some (.field first, r)
  | .behindFields => if c = ']' then some (.behindSpan, r) else none
  | .behindSpan => if c = '=' then some (.level (i + 1), r) else none
  | .level first => some (.level first, r)

/-- What the end of the text makes of a rule. -/
def finish (text : List Char) (r : LogRule) : Part → Option LogRule
  | .word first => do
    let word ← cutFrom? text first
    match least? word with
    | some n => return { r with least := n }
    | none => return { r with target := some (String.ofList word) }
  | .level first => do
    let word ← cutFrom? text first
    if word.isEmpty then return r else return { r with least := ← least? word }
  | .behindSpan => some r
  | _ => none

/-- Reads characters from a place on. -/
def read (text : List Char) (part : Part) (r : LogRule) (i : Nat) : List Char → Option LogRule
  | [] => finish text r part
  | c :: rest =>
    match step text r i c part with
    | none => none
    | some (next, r) => read text next r (i + c.utf8Size) rest

/-- The rule that a text describes. -/
def ofString? (s : String) : Option LogRule :=
  read s.toList .start {} 0 (Text.trimBoth Text.isBlank s.toList)

/-- Whether a rule is about no span and about no value; all other rules apply only within spans. -/
def isAboutLines (r : LogRule) : Bool := r.span.isNone && r.fields.all fun f => f.value.isNone

/-- Whether a rule applies to a line. -/
def appliesTo (r : LogRule) (l : LogLine) : Bool :=
  (match r.target with
    | none => true
    | some t => t.toList.isPrefixOf l.area.path.toList)
    && r.fields.all fun f => l.fieldNames.contains f.name

/-- Whether a rule counts no less than another that applies to the same line. -/
def isAtLeast (a b : LogRule) : Bool :=
  let size := fun r : LogRule => (r.target.map fun t => t.length + 1).getD 0
  let names := fun r : LogRule => r.fields.map FieldRule.name
  if size a ≠ size b then size b < size a
  else if a.fields.length ≠ b.fields.length then b.fields.length < a.fields.length
  else !decide (names a < names b)

end LogRule

end Credentials
