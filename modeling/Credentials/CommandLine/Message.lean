import Credentials.CommandLine.Argument
import Credentials.Terminal.Plain
import Credentials.Terminal.Style

/-!
# Messages about the command line

What is wrong with a command line is said in a message, of which the first line is shown. What was refused
and what is asked for stand out from the rest. Without colors the message is plain: the codes of the styles
are left out together with all that words of the command line hold in the way of control sequences.
-/

namespace Credentials.CommandLine

open Terminal (paint)

/-- What a message begins with. -/
def errorMark : String := paint true [.bold, .red] "error:" ++ " "

/-- What was refused. -/
def refused (s : String) : String := "'" ++ paint true [.yellow] s ++ "'"

/-- What is written as it is shown. -/
def literal (s : String) : String := "'" ++ paint true [.bold] s ++ "'"

/-- Where more can be learned. -/
def advice : String := "\n\nFor more information, try " ++ literal "--help" ++ ".\n"

namespace UsageFault

/-- What is wrong, in styles. -/
def description : UsageFault → String
  | unknownArgument text => "unexpected argument " ++ refused text ++ " found"
  | unknownCommand word => "unrecognized subcommand " ++ refused word
  | missingValue a => "a value is required for " ++ refused a.shown ++ " but none was supplied"
  | impossibleValue v a => "invalid value " ++ refused v ++ " for " ++ literal a.shown
  | rejectedValue v a reason =>
    "invalid value " ++ refused v ++ " for " ++ literal a.shown ++ ": " ++ reason
  | unneededValue v a =>
    "unexpected value " ++ refused v ++ " for " ++ literal a.shown ++ " found; no more were expected"
  | repeated a => "the argument " ++ refused a.shown ++ " cannot be used multiple times"
  | conflicting a b =>
    "the argument " ++ refused a.shown ++ " cannot be used with " ++ refused b.shown
  | missingArguments => "the following required arguments were not provided:"
  | missingCommand => refused programName ++ " requires a subcommand but one was not provided"
  | nothingGiven => summary
  | helpAsked => summary
  | versionAsked => versionText

/-- Whether a fault is a wish to be told something. -/
def isQuestion : UsageFault → Bool
  | nothingGiven | helpAsked | versionAsked => true
  | _ => false

/-- The message in styles. -/
def styled (f : UsageFault) : String :=
  if f.isQuestion then f.description else errorMark ++ f.description ++ advice

/-- The first line of a text, without a carriage return in front of its end. -/
def firstLine (s : String) : String :=
  let line := s.toList.takeWhile (· ≠ '\n')
  let isEnded := line.length < s.length
  String.ofList (if isEnded ∧ line.getLast? = some '\r' then line.dropLast else line)

/-- The first line of the message. -/
def message (colored : Bool) (f : UsageFault) : String :=
  firstLine (if colored then f.styled else Terminal.plain f.styled)

end UsageFault

end Credentials.CommandLine
