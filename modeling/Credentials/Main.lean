import Credentials.Program

/-!
# The command

Runs the program on the files and the environment of the system. The program is a function of what it
finds, so the files that it asks for are read beforehand: it is run again with each file that it opened
and that was not read yet. There is no network here, so no server answers, and there are no scripts for
shells.
-/

namespace Credentials

/-- What a failure to read a file says about it. -/
def fileErrorOf : IO.Error → FileError
  | .inappropriateType _ 20 _ => .notDirectory
  | .inappropriateType _ _ _ => .isDirectory
  | .permissionDenied _ _ _ => .denied
  | _ => .notFound

/-- What a path leads to. -/
def readEntry (path : String) : IO Entry := do
  match ← (IO.FS.readBinFile path).toBaseIO with
  | .ok bytes => return .file (.bytes bytes.toList)
  | .error e =>
    match fileErrorOf e, ← (IO.FS.realPath path).toBaseIO with
    | .isDirectory, _ => return .directory
    | f, .ok _ => return .unreadable f
    | f, .error _ => return .absent f

/-- The variables that the program reads. -/
def settingNames : List String :=
  [Config.urlVariable, Config.tokenVariable, Program.configVariable, Program.filterVariable,
    Terminal.forbiddingVariable, Terminal.forcingVariable]

/-- The directory for configurations of the user. -/
def configHome : IO (Option String) := do
  match ← IO.getEnv "XDG_CONFIG_HOME" with
  | some d => return some d
  | none => return (← IO.getEnv "HOME").map fun d => d ++ "/.config"

/-- The world with some of its files read. -/
def worldOf (settings : List (String × String)) (home : Option String)
    (entries : List (String × Entry)) : World :=
  { World.empty with
    look := fun path => (entries.lookup path).getD (.absent .notFound)
    environment := fun name => settings.lookup name
    configHome := home }

/-- Reads the files that the program asks for, in at most `n` rounds. -/
def gather (settings : List (String × String)) (home : Option String) (words : List String) :
    Nat → List (String × Entry) → IO World
  | 0, entries => return worldOf settings home entries
  | n + 1, entries => do
    let w := worldOf settings home entries
    let unread := (Program.openedBy w words []).filter fun path => (entries.lookup path).isNone
    if unread.isEmpty then return w
    else
      let more ← unread.mapM fun path => return (path, ← readEntry path)
      gather settings home words n (entries ++ more)

/-- The paths at which a configuration may be. -/
def configPaths (settings : List (String × String)) (home : Option String) (words : List String) :
    List String :=
  let asked :=
    match CommandLine.parse (settings.lookup Program.configVariable) words with
    | .ok i => i.config.toList
    | .error _ => []
  asked ++ Config.fileName :: (home.map fun d => d ++ "/credhub/" ++ Config.fileName).toList

/-- Runs the program on the system. -/
def runOnSystem (words : List String) : IO UInt32 := do
  let settings ← settingNames.filterMapM fun name => do
    return (← IO.getEnv name).map fun value => (name, value)
  let home ← configHome
  let entries ← (configPaths settings home words).mapM fun path => return (path, ← readEntry path)
  let w ← gather settings home words 64 entries
  let r := Program.run w words []
  (← IO.getStdout).putStr r.out
  (← IO.getStderr).putStr r.err
  return r.code.toUInt32

end Credentials

/-- The command. -/
def main (words : List String) : IO UInt32 := Credentials.runOnSystem words
