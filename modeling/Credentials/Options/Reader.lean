import Credentials.Json.Expected
import Credentials.Json.Skip
import Credentials.Options.Basic

/-!
# Reading options

Options are read from JSON text: from an object, of which unknown members are skipped, or from an array
that gives them in order. A known member may be given only once.
-/

namespace Credentials.Options

open Json

theorem toNat_lt (n : Integer) : n.val.toNat < 2 ^ 64 := by
  have := n.lt
  omega

/-- A number of milliseconds as a duration. -/
def duration? (n : Number) : Option Duration :=
  match n with
  | .integer n => if 0 ≤ n.val then some (.ofMillis n.val.toNat (toNat_lt n)) else none
  | .float _ => none

/-- What is wrong with a number that is no duration. -/
def numberCause (n : Number) : Cause :=
  match n with
  | .integer _ => .invalidValue (shownNumber n) "u64"
  | .float _ => .unexpectedType (shownNumber n) "u64"

/-- The duration that a number is. -/
def durationOf (r : Step Number) : Step (Option Duration) :=
  match r with
  | .error f => .error f
  | .ok (n, rest) =>
    match duration? n with
    | some d => .ok (some d, rest)
    | none => .error (.before (numberCause n) rest)

/-- A timeout, or null. -/
def timeout (s : List Char) : Step (Option Duration) :=
  match skipBlanks s with
  | 'n' :: rest => (word null ['u', 'l', 'l'] rest).map fun r => (none, r.2)
  | '-' :: rest => durationOf (numberFrom true rest)
  | c :: rest =>
    if c.isDigit then durationOf (numberFrom false (c :: rest))
    else .error (mismatch "u64" (c :: rest))
  | [] => .error (mismatch "u64" [])

/-- The paths of an array up to its closing bracket. -/
def paths : Nat → Bool → List Char → Step (List String)
  | 0, _, s => .error (.before .endInList s)
  | n + 1, first, s =>
    match nextItem first s with
    | .error f => .error f
    | .ok (false, rest) => .ok ([], rest)
    | .ok (true, '"' :: rest) =>
      match chars (rest.length + 1) rest with
      | .error f => .error f
      | .ok (p, rest) => (paths n false rest).map fun r => (String.ofList p :: r.1, r.2)
    | .ok (true, rest) => .error (mismatch "path string" rest)

/-- A list of paths, or null. -/
def files (s : List Char) : Step (Option (List String)) :=
  match skipBlanks s with
  | 'n' :: rest => (word null ['u', 'l', 'l'] rest).map fun r => (none, r.2)
  | '[' :: rest => (paths (rest.length + 1) true rest).map fun r => (some r.1, r.2)
  | s => .error (mismatch "a sequence" s)

/-- What was read of the members; a member that was given has a value, which may be absent. -/
structure Members where
  connectionTimeout : Option (Option Duration) := none
  readTimeout : Option (Option Duration) := none
  certificateFiles : Option (Option (List String)) := none

/-- The options that the members give. -/
def Members.options (m : Members) : Options :=
  ⟨m.connectionTimeout.join, m.readTimeout.join, m.certificateFiles.join⟩

/-- The place of a fault that is noticed behind a key: a closing brace that follows counts too. -/
def repeated (name : String) (s : List Char) : Fault :=
  match skipBlanks s with
  | '}' :: rest => .before (.duplicateField name) rest
  | rest => .before (.duplicateField name) rest

/-- A member behind its key. -/
def member (n : Nat) (m : Members) (key : String) (s : List Char) : Step Members :=
  if key = "connection_timeout_ms" then
    if m.connectionTimeout.isSome then .error (repeated key s)
    else
      match colon s with
      | .error f => .error f
      | .ok rest => (timeout rest).map fun r => ({ m with connectionTimeout := some r.1 }, r.2)
  else if key = "read_timeout_ms" then
    if m.readTimeout.isSome then .error (repeated key s)
    else
      match colon s with
      | .error f => .error f
      | .ok rest => (timeout rest).map fun r => ({ m with readTimeout := some r.1 }, r.2)
  else if key = "ca_cert_files" then
    if m.certificateFiles.isSome then .error (repeated key s)
    else
      match colon s with
      | .error f => .error f
      | .ok rest => (files rest).map fun r => ({ m with certificateFiles := some r.1 }, r.2)
  else
    match colon s with
    | .error f => .error f
    | .ok rest => (skip n rest).map fun rest => (m, rest)

/-- The members of an object up to its closing brace, added to those read before. -/
def membersFrom : Nat → Bool → Members → List Char → Step Members
  | 0, _, _, s => .error (.before .endInObject s)
  | n + 1, first, m, s =>
    match nextKey (s.length + 1) first s with
    | .error f => .error f
    | .ok (none, rest) => .ok (m, rest)
    | .ok (some key, rest) =>
      match member (n + 1) m (String.ofList key) rest with
      | .error f => .error f
      | .ok (m, rest) => membersFrom n false m rest

/-- An item of an array, unless the array ends before it. -/
def place {α : Type} (first : Bool) (item : List Char → Step (Option α)) (s : List Char) :
    Step (Option (Option α)) :=
  match skipBlanks s with
  | ']' :: rest => .ok (none, ']' :: rest)
  | s =>
    match nextItem first s with
    | .error f => .error f
    | .ok (_, rest) => (item rest).map fun r => (some r.1, r.2)

/-- The end of an array from which all places were read. -/
def arrayEnd (s : List Char) : Except Fault (List Char) :=
  match skipBlanks s with
  | [] => .error ⟨.endInList, 0⟩
  | ']' :: rest => .ok rest
  | ',' :: rest =>
    match skipBlanks rest with
    | ']' :: rest => .error (.inside .trailingComma (']' :: rest))
    | rest => .error (.inside .trailingCharacters rest)
  | rest => .error (.inside .trailingCharacters rest)

/-- Reads one item if the one before it was there. -/
def placeAfter {α β : Type} (before : Option β) (item : List Char → Step (Option α))
    (s : List Char) : Step (Option (Option α)) :=
  if before.isSome then place false item s else .ok (none, s)

/-- Options given in order, behind the opening bracket. -/
def inOrder (s : List Char) : Step Members :=
  match place true timeout s with
  | .error f => .error f
  | .ok (connection, s) =>
    match placeAfter connection timeout s with
    | .error f => .error f
    | .ok (reading, s) =>
      match placeAfter reading files s with
      | .error f => .error f
      | .ok (paths, s) => (arrayEnd s).map fun s => (⟨connection, reading, paths⟩, s)

/-- Options that fill the whole text. -/
def document (s : List Char) : Except Fault Options :=
  let members :=
    match skipBlanks s with
    | '{' :: rest => membersFrom (stepsFor s) true {} rest
    | '[' :: rest => inOrder rest
    | s => .error (mismatch "struct ClientOptions" s)
  match members with
  | .error f => .error f
  | .ok (m, rest) =>
    match skipBlanks rest with
    | [] => .ok m.options
    | rest => .error (.inside .trailingCharacters rest)

/-- The options that a text gives. -/
def read (text : String) : Except SyntaxError Options :=
  (document text.toList).mapError (Fault.locate text.toList)

end Credentials.Options
