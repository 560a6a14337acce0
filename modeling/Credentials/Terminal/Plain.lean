/-!
# Texts without control sequences

What a terminal would take for a command and not for text is left out of messages that are shown without
colors: sequences that an escape character begins, and controls other than white space. `plain` walks
through a text and keeps what a terminal would show; a white space in front of the end of a sequence is
shown too, and ends it.
-/

namespace Credentials.Terminal

/-- Where a terminal stands in a sequence. -/
inductive Place
  /-- In no sequence. -/
  | ground
  /-- Behind an escape character. -/
  | escape
  /-- Behind an escape character and marks that select a kind of sequence. -/
  | intermediate
  /-- In a sequence of parameters that a letter ends. -/
  | parameters
  /-- In a command of the operating system, which a bell ends. -/
  | command
  /-- In a string that only another control ends. -/
  | string
deriving DecidableEq

/-- Whether a control is white space. -/
def isShownControl (c : Char) : Bool := c == '\t' || c == '\n' || c == '\x0c' || c == '\r'

/-- Whether a character is shown outside of sequences. -/
def isShown (c : Char) : Bool := (0x20 ≤ c.toNat && c.toNat != 0x7F) || isShownControl c

namespace Place

/-- Where a character of ASCII that is no control leads from behind an escape character. -/
def afterEscape (c : Char) : Place :=
  if c = '[' then .parameters
  else if c = ']' then .command
  else if c = 'P' ∨ c = 'X' ∨ c = '^' ∨ c = '_' then .string
  else if c.toNat < 0x30 then .intermediate
  else .ground

/-- Where a character of ASCII that is no control leads to. -/
def next (p : Place) (c : Char) : Place :=
  match p with
  | .ground => .ground
  | .escape => afterEscape c
  | .intermediate => if c.toNat < 0x30 then .intermediate else .ground
  | .parameters => if c.toNat < 0x40 then .parameters else .ground
  | .command => .command
  | .string => .string

/-- Whether controls count although a sequence has begun. -/
def heedsControls : Place → Bool
  | ground | escape | intermediate | parameters => true
  | command | string => false

/-- Where a character leads to, and whether it is shown. -/
def step (p : Place) (c : Char) : Place × Bool :=
  if c = '\x1b' then (.escape, false)
  else if c = '\x18' ∨ c = '\x1a' then (.ground, false)
  else if p = .ground then (.ground, isShown c)
  else if c.toNat < 0x20 then
    if p.heedsControls && isShownControl c then (.ground, true)
    else if p = .command ∧ c = '\x07' then (.ground, false)
    else (p, false)
  else if c.toNat < 0x7F then (p.next c, false)
  else (p, false)

end Place

/-- What is shown of characters that come at a place. -/
def shown (p : Place) : List Char → List Char
  | [] => []
  | c :: rest =>
    let (q, isKept) := p.step c
    if isKept then c :: shown q rest else shown q rest

/-- A text as it is shown. -/
def plain (s : String) : String := String.ofList (shown .ground s.toList)

end Credentials.Terminal
