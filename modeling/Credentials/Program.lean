import Credentials.Command.Execute
import Credentials.CommandLine.Message
import Credentials.Log.Filter

/-!
# The program

`Program.run` is the program as a function of the world, its words and the replies of the server. Its
`Report` holds the exit code, both outputs and the requests that arrived. The code is 0 for success, 1 for
an error and 2 for a command line that cannot be carried out.
-/

namespace Credentials

open CommandLine

/-- What a run of the program shows. -/
structure Report where
  code : Nat
  /-- Standard output. -/
  out : String
  /-- Standard error. -/
  err : String
  /-- The requests that arrived at the server. -/
  arrivals : List Http.Arrival

namespace Program

/-- The variable that filters the log. -/
def filterVariable : String := "CREDHUB_LOG"

/-- The variable that names a configuration file. -/
def configVariable : String := "CREDHUB_CONFIG"

/-- The text that help shows. -/
def helpText : String :=
  summary ++ "\n\nUsage: credhub [OPTIONS] <COMMAND>\n\nCommands:\n"
    ++ "  get          Fetch a credential by name (all versions) or by version id\n"
    ++ "  set          Write a credential\n"
    ++ "  delete       Delete a credential and all of its versions\n"
    ++ "  completions  Generate shell completions\n"
    ++ "  help         Print this message or the help of the given subcommand(s)\n"
    ++ "\nOptions:\n"
    ++ "  -v, --verbose          Show debug output\n"
    ++ "  -c, --config <CONFIG>  Path to credhub.toml [env: CREDHUB_CONFIG=]\n"
    ++ "  -h, --help             Print help\n"
    ++ "  -V, --version          Print version\n"

/-- What to do about an error. -/
def advice? : Error → Option String
  | .config .notFound => some "create credhub.toml with a [server] url, or set CREDHUB_URL"
  | .status code _ =>
    if code = 401 ∨ code = 403 then some "check the token in credhub.toml or CREDHUB_TOKEN" else none
  | .transport _ => some "check the server url and ca_cert_files in credhub.toml"
  | _ => none

/-- The filter of the log. -/
def filter (w : World) (verbose : Bool) : LogFilter :=
  ((w.environment filterVariable).bind LogFilter.ofString?).getD (.usual verbose)

/-- What events write to standard output. -/
def printed (events : List Event) : String :=
  String.join (events.filterMap fun e =>
    match e with
    | .printed s => some s
    | _ => none)

/-- The lines that events write to the log. -/
def logLines (events : List Event) : List LogLine :=
  events.filterMap fun e =>
    match e with
    | .logged l => some l
    | _ => none

/-- The requests that arrive at the server in the course of events. -/
def arrivals (events : List Event) : List Http.Arrival :=
  events.filterMap fun e =>
    match e with
    | .arrived a => some a
    | _ => none

/-- The files that are opened in the course of events. -/
def opened (events : List Event) : List String :=
  events.filterMap fun e =>
    match e with
    | .opened path => some path
    | _ => none

/-- The lines about an error. -/
def complaint (colored : Bool) (e : Error) : List String :=
  Terminal.failure colored e.message :: ((advice? e).map (Terminal.hint colored)).toList

/-- Lines as text. -/
def linesText (lines : List String) : String := String.join (lines.map fun l => l ++ "\n")

/-- The report on a command line that is not carried out. -/
def refuse (w : World) : UsageFault → Report
  | .helpAsked => ⟨0, helpText, "", []⟩
  | .versionAsked => ⟨0, versionText ++ "\n", "", []⟩
  | .nothingGiven => ⟨2, "", helpText, []⟩
  | f => ⟨2, "", f.message (Terminal.areMessagesColored w) ++ "\n", []⟩

/-- The report on an invocation that was carried out. -/
def report (w : World) (i : Invocation) (o : Outcome (List Http.Reply) Unit) : Report :=
  let shown := (logLines o.events).filter (filter w i.verbose).shows
  let log := shown.map (LogLine.text (Terminal.isLogColored w))
  let out := printed o.events
  match o.result with
  | .ok () => ⟨0, out, linesText log, arrivals o.events⟩
  | .error e =>
    ⟨1, out, linesText (log ++ complaint (Terminal.areMarksColored w) e), arrivals o.events⟩

/-- Runs the program. -/
def run (w : World) (words : List String) (replies : List Http.Reply) : Report :=
  match parse (w.environment configVariable) words with
  | .error f => refuse w f
  | .ok i => report w i ((i.execute w).run replies)

/-- The files that the program opens. -/
def openedBy (w : World) (words : List String) (replies : List Http.Reply) : List String :=
  match parse (w.environment configVariable) words with
  | .error _ => []
  | .ok i => opened ((i.execute w).run replies).events

end Program

end Credentials
