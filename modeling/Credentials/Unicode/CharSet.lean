import Credentials.Text.Digit

/-!
# Sets of characters

A set of characters is given by a text of hexadecimal numbers with blanks between them: each stands for a
character, or two with a dash between them for all from the first to the last. In a table a colon and
further numbers with plus signs between them say what belongs to the characters.
-/

namespace Credentials.Unicode

/-- The words of a text between its blanks and line breaks. -/
def words (s : String) : List (List Char) :=
  (s.toList.splitOnP fun c => c == ' ' || c == '\n').filter fun word => !word.isEmpty

/-- The number that hexadecimal digits write. -/
def hexNumber (s : List Char) : Nat := s.foldl (fun n c => n * 16 + (Text.hexValue? c).getD 0) 0

/-- The numbers of a word between its marks. -/
def numbers (mark : Char) (word : List Char) : List Nat := (word.splitOn mark).map hexNumber

/-- Characters that follow each other. -/
structure Range where
  first : Nat
  last : Nat
deriving DecidableEq

namespace Range

/-- The range that a word stands for. -/
def ofWord (word : List Char) : Range :=
  match numbers '-' word with
  | a :: b :: _ => ⟨a, b⟩
  | [a] => ⟨a, a⟩
  | [] => ⟨0, 0⟩

/-- Whether a character lies in a range. -/
def has (r : Range) (c : Char) : Bool := r.first ≤ c.toNat && c.toNat ≤ r.last

end Range

/-- A set of characters. -/
structure CharSet where
  ranges : List Range
deriving DecidableEq

namespace CharSet

/-- The set that a text gives. -/
def ofText (s : String) : CharSet := ⟨(words s).map Range.ofWord⟩

/-- Whether a character belongs to a set. -/
def has (s : CharSet) (c : Char) : Bool := s.ranges.any fun r => r.has c

end CharSet

/-- A row of a table: characters and what belongs to them. -/
structure Row where
  range : Range
  values : List Nat
deriving DecidableEq

/-- The row that a word stands for. -/
def Row.ofWord (word : List Char) : Row :=
  ⟨Range.ofWord (word.takeWhile (· ≠ ':')), numbers '+' ((word.dropWhile (· ≠ ':')).drop 1)⟩

/-- What belongs to characters. -/
structure CharTable where
  rows : List Row
deriving DecidableEq

namespace CharTable

/-- The table that a text gives. -/
def ofText (s : String) : CharTable := ⟨(words s).map Row.ofWord⟩

/-- The row in which a character is found. -/
def row? (t : CharTable) (c : Char) : Option Row := t.rows.find? fun r => r.range.has c

end CharTable

end Credentials.Unicode
