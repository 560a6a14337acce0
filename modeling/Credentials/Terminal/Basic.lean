import Credentials.Terminal.Style
import Credentials.World

/-!
# Marks and colors

What the program tells its user stands behind a mark. Nothing is written to a terminal directly, so colors
are shown only where they are forced and not forbidden; the log has no need of being forced.
-/

namespace Credentials.Terminal

/-- The variable that forbids colors. -/
def forbiddingVariable : String := "NO_COLOR"

/-- The variable that forces colors. -/
def forcingVariable : String := "CLICOLOR_FORCE"

/-- Whether colors are forbidden to marks, by any value. -/
def isForbidden (w : World) : Bool := (w.environment forbiddingVariable).isSome

/-- Whether colors are forbidden to all else, by a value that is not empty. -/
def isForbiddenByValue (w : World) : Bool := ((w.environment forbiddingVariable).getD "") != ""

/-- Whether colors are forced. -/
def isForced (w : World) : Bool :=
  match w.environment forcingVariable with
  | none => false
  | some v => v != "0"

/-- Whether marks are colored. -/
def areMarksColored (w : World) : Bool := !isForbidden w && isForced w

/-- Whether messages about the command line are colored. -/
def areMessagesColored (w : World) : Bool := !isForbiddenByValue w && isForced w

/-- Whether the log is colored. -/
def isLogColored (w : World) : Bool := !isForbiddenByValue w

/-- A line about something that succeeded. -/
def success (colored : Bool) (s : String) : String := paint colored [.green] "✓" ++ " " ++ s

/-- A line about something that failed. -/
def failure (colored : Bool) (s : String) : String := paint colored [.red] "✗" ++ " " ++ s

/-- A line that says what to do. -/
def hint (colored : Bool) (s : String) : String :=
  paint colored [.cyan] "→" ++ " " ++ paint colored [.cyan] s

end Credentials.Terminal
