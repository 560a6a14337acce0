/-!
# Styles

A terminal shows a text in a style if codes that begin the style stand in front of it and the code that
ends all styles stands behind it.
-/

namespace Credentials.Terminal

/-- A style in which a text may be shown. -/
inductive Style
  | bold
  | dim
  | italic
  | red
  | green
  | yellow
  | blue
  | magenta
  | cyan
deriving DecidableEq

/-- The number of a style. -/
def Style.number : Style → String
  | bold => "1"
  | dim => "2"
  | italic => "3"
  | red => "31"
  | green => "32"
  | yellow => "33"
  | blue => "34"
  | magenta => "35"
  | cyan => "36"

/-- The code that begins a style. -/
def Style.begin (s : Style) : String := "\x1b[" ++ s.number ++ "m"

/-- The code that ends all styles. -/
def plainCode : String := "\x1b[0m"

/-- A text in styles, if they are wanted. -/
def paint (colored : Bool) (styles : List Style) (s : String) : String :=
  if colored then String.join (styles.map Style.begin) ++ s ++ plainCode else s

/-- A text in no style is the text itself. -/
@[simp] theorem paint_false (styles : List Style) (s : String) : paint false styles s = s := rfl

end Credentials.Terminal
