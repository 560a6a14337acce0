import Credentials.Text.Digit

/-!
# Values that fields are asked for

The value that a rule of a filter asks of a field is a truth value, a number or else a pattern. Truth values
and numbers are taken as they are, and a pattern has to be well-formed: its brackets match, what is
repeated is there, and a backslash stands in front of a mark or of a letter that has a meaning behind it.
-/

namespace Credentials.Pattern

/-- Whether letters in any case spell a word. -/
def spells (word : String) (s : List Char) : Bool := s.map Char.toLower == word.toList

/-- A text without a sign in front. -/
def unsigned (s : List Char) : List Char :=
  match s with
  | '+' :: rest => rest
  | '-' :: rest => rest
  | _ => s

/-- Whether a text is empty or an exponent. -/
def isExponent (s : List Char) : Bool :=
  match s with
  | [] => true
  | e :: rest =>
    (e == 'e' || e == 'E') && !(unsigned rest).isEmpty && (unsigned rest).all Char.isDigit

/-- Whether a text without a sign is a number, with or without a fraction. -/
def isMagnitude (s : List Char) : Bool :=
  let whole := s.takeWhile Char.isDigit
  match s.dropWhile Char.isDigit with
  | '.' :: rest =>
    (!whole.isEmpty || !(rest.takeWhile Char.isDigit).isEmpty)
      && isExponent (rest.dropWhile Char.isDigit)
  | rest => !whole.isEmpty && isExponent rest

/-- Whether a text is a number, infinity or no number. -/
def isNumber (s : List Char) : Bool :=
  let m := unsigned s
  spells "inf" m || spells "infinity" m || spells "nan" m || isMagnitude m

/-- Where the reader of a pattern stands. -/
structure State where
  /-- How many groups are open. -/
  groups : Nat := 0
  /-- How many sets of characters are open. -/
  sets : Nat := 0
  /-- Whether the set was opened just now, so that a closing bracket would belong to it. -/
  isFresh : Bool := false
  /-- Whether something stands here that can be repeated. -/
  isRepeatable : Bool := false
  /-- Whether a group was opened just now, which a question mark may describe. -/
  isOpening : Bool := false
  /-- Whether a backslash stands in front. -/
  isEscaped : Bool := false

/-- Whether a backslash may stand in front of a character. -/
def isEscapable (c : Char) : Bool :=
  c.toNat < 0x80 && c != '<' && c != '>' && (!c.isAlphanum || "aftnrvAz".toList.contains c)

namespace State

/-- Behind something that can be repeated. -/
def behind (s : State) : State := { s with isFresh := false, isRepeatable := true, isOpening := false }

/-- Where a character leads from within a set. -/
def stepInSet (s : State) (c : Char) : State :=
  if c = '\\' then { s with isFresh := false, isEscaped := true }
  else if c = '[' then { s with sets := s.sets + 1, isFresh := true }
  else if c = '^' ∧ s.isFresh then s
  else if c = ']' ∧ ¬ s.isFresh then { s.behind with sets := s.sets - 1 }
  else { s with isFresh := false }

/-- Where a character leads from outside of sets. -/
def stepOutside (s : State) (c : Char) : Option State :=
  if c = '\\' then some { s with isEscaped := true, isOpening := false }
  else if c = '[' then some { s.behind with sets := 1, isFresh := true }
  else if c = '(' then some { s with groups := s.groups + 1, isRepeatable := false, isOpening := true }
  else if c = ')' then
    if s.groups = 0 then none else some { s.behind with groups := s.groups - 1 }
  else if c = '|' then some { s with isRepeatable := false, isOpening := false }
  else if c = '?' ∧ s.isOpening then some { s with isOpening := false }
  else if c = '*' ∨ c = '+' ∨ c = '?' then if s.isRepeatable then some s else none
  else if c = '\x7b' then none
  else some s.behind

/-- Where a character leads to, unless the pattern is not well-formed. -/
def step (s : State) (c : Char) : Option State :=
  if s.isEscaped then
    if isEscapable c then
      some (if s.sets = 0 then { s.behind with isEscaped := false } else { s with isEscaped := false })
    else none
  else if s.sets ≠ 0 then some (s.stepInSet c)
  else s.stepOutside c

end State

/-- Whether a pattern is well-formed. -/
def isWellFormed (s : List Char) : Bool :=
  match s.foldlM State.step {} with
  | some t => t.groups == 0 && t.sets == 0 && !t.isEscaped
  | none => false

/-- Whether a field may be asked for a value. -/
def isAccepted (s : List Char) : Bool := isNumber s || isWellFormed s

end Credentials.Pattern
