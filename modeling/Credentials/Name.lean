import Credentials.Error

/-!
# Names of credentials

A credential is filed under a path. Its canonical text starts with exactly one separator; everything
behind the leading separators is kept as it is. `Name.ofString?` brings any text into this form and
`Name.ofSegments` joins pieces of a path.
-/

namespace Credentials

/-- What stands between the pieces of a path. -/
def separator : Char := '/'

/-- A text with exactly one leading separator and something behind it. -/
def IsCanonical (s : String) : Prop := ∃ c r, s.toList = separator :: c :: r ∧ c ≠ separator

/-- The name of a credential. -/
structure Name where
  /-- The text of the name. -/
  text : String
  /-- The text has one leading separator. -/
  canonical : IsCanonical text
deriving DecidableEq

namespace Name

@[ext] theorem ext {a b : Name} (h : a.text = b.text) : a = b := by
  cases a; cases b; cases h; rfl

/-- Whether a character is the separator. -/
def isSeparator (c : Char) : Bool := c == separator

theorem head_dropWhile {s : List Char} {c : Char} {r : List Char}
    (h : s.dropWhile isSeparator = c :: r) : c ≠ separator := by
  intro hc
  have := List.head?_dropWhile_not isSeparator s
  simp [h, hc, isSeparator] at this

/-- The name that a text stands for: its leading separators become one. -/
def ofString? (raw : String) : Option Name :=
  match h : raw.toList.dropWhile isSeparator with
  | [] => none
  | c :: r => some ⟨String.ofList (separator :: c :: r), c, r, by simp, head_dropWhile h⟩

/-- A segment without the separators at its ends. -/
def trimSegment (s : String) : List Char :=
  ((s.toList.dropWhile isSeparator).reverse.dropWhile isSeparator).reverse

/-- Segments with one separator between each two. -/
def joinSegments : List (List Char) → List Char
  | [] => []
  | [s] => s
  | s :: ss => s ++ separator :: joinSegments ss

/-- The name made of segments; those without a character of their own are left out. -/
def ofSegments? (segments : List String) : Option Name :=
  ofString? (String.ofList
    (joinSegments ((segments.map trimSegment).filter fun s => !s.isEmpty)))

/-- The name made of segments, of which at least one has to have a character of its own. -/
def ofSegments (segments : List String) : Except Error Name :=
  match ofSegments? segments with
  | some n => .ok n
  | none => .error (.validation .emptyName)

/-- The order of names: by code points. -/
def le (a b : Name) : Bool := decide (¬ b.text < a.text)

/-- Names in order. -/
def sort (names : List Name) : List Name := names.mergeSort le

end Name

end Credentials
