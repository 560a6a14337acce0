import Credentials.Log.Rule

/-!
# Which log lines are shown

A filter is a list of rules, which are written with commas between them. The program opens no spans, so
only rules about lines count. Of those that apply to a line the one with the longest name decides, then the
one with the most fields, then the last in alphabetical order, then the last; if none applies, the line is
not shown.
-/

namespace Credentials

/-- Rules for the lines that are shown. -/
abbrev LogFilter := List LogRule

namespace LogFilter

/-- The filter that a text describes; without a rule only errors are shown. -/
def ofString? (s : String) : Option LogFilter := do
  let words := ((s.toList.splitOn ',').map String.ofList).filter fun word => word ≠ ""
  let rules ← words.mapM LogRule.ofString?
  return if rules.isEmpty then [{ least := 4 }] else rules

/-- The filter that is used when no other is given. -/
def usual (verbose : Bool) : LogFilter :=
  [{ target := some Area.root, least := if verbose then 1 else 3 }]

/-- The filter that shows all lines of the program, and none about connections. -/
def own : LogFilter := [{ target := some Area.root }]

/-- The rule that decides about a line. -/
def decisive? (f : LogFilter) (l : LogLine) : Option LogRule :=
  (f.filter fun r => r.isAboutLines && r.appliesTo l).foldl
    (fun best r =>
      match best with
      | none => some r
      | some b => if r.isAtLeast b then some r else some b)
    none

/-- Whether a line is shown. -/
def shows (f : LogFilter) (l : LogLine) : Bool :=
  match f.decisive? l with
  | none => false
  | some r => r.least ≤ l.level.rank

end LogFilter

end Credentials
