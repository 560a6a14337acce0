import Credentials.Command.Fields
import Credentials.CommandLine.Argument

/-!
# Reading the command line

Words are read one after the other: first those of the program, and from the name of a command on those
of the command. The value of an argument counts only when the next argument or the end comes, so a fault
in it gives way to a word that is not known. A command is complete when all its words are read, its file
of configuration is looked up in the environment, and no argument excludes another or is missing.
-/

namespace Credentials.CommandLine

/-- Which credential to fetch. -/
inductive Selector
  | name (raw : String)
  | id (id : String)
deriving DecidableEq

/-- What is to be done. -/
inductive Command
  | get (which : Selector) (latest : Bool)
  | set (name : String) (kind : Kind) (overwrite : Bool) (fields : Fields)
    (grants : List Permission)
  | delete (name : String)
  | completions (shell : Shell)

/-- A command with the arguments that any command takes. -/
structure Invocation where
  verbose : Bool
  /-- The path of the configuration file that is asked for. -/
  config : Option String
  command : Command

/-- What was given at a level. -/
structure Given where
  /-- The arguments in the order in which they were given. -/
  order : List Argument := []
  /-- The last argument that takes a value, with its value unless that is still to come. -/
  pending : Option (Argument × Option String) := none
  verbose : Bool := false
  config : Option String := none
  name : Option String := none
  id : Option String := none
  latest : Bool := false
  kind : Option Kind := none
  overwrite : Bool := false
  fields : Fields := {}
  grants : List Permission := []
  shell : Option Shell := none
  /-- Whether a word without a dash was taken. -/
  hasWord : Bool := false

namespace Given

/-- Keeps the value of an argument, unless it cannot be read. -/
def store (g : Given) (a : Argument) (s : String) : Except UsageFault Given :=
  match a with
  | .config => if s = "" then .error (.missingValue a) else .ok { g with config := some s }
  | .name => .ok { g with name := some s }
  | .id => .ok { g with id := some s }
  | .kind =>
    match Kind.ofTag? s with
    | some k => .ok { g with kind := some k }
    | none => .error (.rejectedValue s a (CodecError.unknownKind s).message)
  | .value => .ok { g with fields := { g.fields with value := some s } }
  | .username => .ok { g with fields := { g.fields with username := some s } }
  | .password => .ok { g with fields := { g.fields with password := some s } }
  | .publicKey => .ok { g with fields := { g.fields with publicKey := some s } }
  | .privateKey => .ok { g with fields := { g.fields with privateKey := some s } }
  | .certificate => .ok { g with fields := { g.fields with certificate := some s } }
  | .ca => .ok { g with fields := { g.fields with ca := some s } }
  | .caName => .ok { g with fields := { g.fields with caName := some s } }
  | .grant =>
    match Permission.ofGrant s with
    | .ok p => .ok { g with grants := g.grants ++ [p] }
    | .error e => .error (.rejectedValue s a e.message)
  | .shell =>
    if s = "" then .error (.missingValue a)
    else
      match Shell.ofWord? s with
      | some sh => .ok { g with shell := some sh }
      | none => .error (.impossibleValue s a)
  | .verbose => .ok { g with verbose := true }
  | .latest => .ok { g with latest := true }
  | .overwrite => .ok { g with overwrite := true }
  | .help => .error .helpAsked
  | .version => .error .versionAsked

/-- Takes an argument with its value. -/
def take (g : Given) (a : Argument) (s : String) : Except UsageFault Given :=
  if a ∈ g.order ∧ ¬ a.isRepeatable then .error (.repeated a)
  else { g with order := g.order ++ [a] }.store a s

/-- Takes the argument that is pending. -/
def settle (g : Given) : Except UsageFault Given :=
  match g.pending with
  | none => .ok g
  | some (a, none) => .error (.missingValue a)
  | some (a, some s) => { g with pending := none }.take a s

/-- Takes a flag. -/
def raise (g : Given) (a : Argument) : Except UsageFault Given := do (← g.settle).take a ""

/-- Takes an argument that has a value attached, or waits for its value. -/
def begin (g : Given) (a : Argument) (attached : Option String) : Except UsageFault Given := do
  let g ← g.settle
  match attached with
  | some s => g.take a s
  | none => return { g with pending := some (a, none) }

/-- The argument that waits for its value. -/
def waiting? (g : Given) : Option Argument :=
  match g.pending with
  | some (a, none) => some a
  | _ => none

end Given

/-- The argument of a level with a long name. -/
def Level.long? (l : Level) (name : List Char) : Option Argument :=
  l.arguments.find? fun a => a.long? = some (String.ofList name)

/-- The argument of a level with a short name. -/
def Level.short? (l : Level) (name : Char) : Option Argument :=
  l.arguments.find? fun a => a.short? = some name

/-- The text behind the first equals sign, if there is one. -/
def attachedTo (s : List Char) : Option String :=
  match s.dropWhile (· ≠ '=') with
  | [] => none
  | _ :: v => some (String.ofList v)

/-- Reads a word behind its two dashes. -/
def readLong (l : Level) (g : Given) (s : List Char) : Except UsageFault Given :=
  let name := s.takeWhile (· ≠ '=')
  match l.long? name with
  | none => .error (.unknownArgument (String.ofList ('-' :: '-' :: name)))
  | some a =>
    if a.isFlag then
      match attachedTo s with
      | some v => .error (.unneededValue v a)
      | none => g.raise a
    else g.begin a (attachedTo s)

/-- The value behind a short name, without an equals sign in front. -/
def shortValue : List Char → Option String
  | [] => none
  | '=' :: s => some (String.ofList s)
  | s => some (String.ofList s)

/-- Reads a word behind its single dash: flags, and perhaps an argument with its value. -/
def readShort (l : Level) (g : Given) : List Char → Except UsageFault Given
  | [] => .ok g
  | c :: s =>
    match l.short? c with
    | none => .error (.unknownArgument (String.ofList ['-', c]))
    | some a =>
      if a.isFlag then
        match g.raise a with
        | .error e => .error e
        | .ok g => readShort l g s
      else g.begin a (shortValue s)

/-- The fault of a word that nothing waits for. -/
def strayWord (l : Level) (behindDashes : Bool) (word : String) : UsageFault :=
  if l = .program ∧ ¬ (behindDashes ∧ isCommandWord word) then .unknownCommand word
  else .unknownArgument word

/-- Reads a word that is no argument of its own. -/
def readWord (l : Level) (g : Given) (behindDashes : Bool) (word : String) :
    Except UsageFault Given :=
  match g.waiting?, behindDashes with
  | some a, false => .ok { g with pending := some (a, some word) }
  | _, _ =>
    if l = .completions ∧ ¬ g.hasWord then do
      let g ← g.settle
      return { g with pending := some (.shell, some word), hasWord := true }
    else .error (strayWord l behindDashes word)

/-- The fault that help on the words behind `help` ends with. -/
def helpOn : List String → UsageFault
  | [] => .helpAsked
  | [word] => if isCommandWord word then .helpAsked else .unknownCommand word
  | word :: next :: _ => if isCommandWord word then .unknownCommand next else .unknownCommand word

/-- Reads the words of a level, up to the name of a command: the command and the words behind it. -/
def scan (l : Level) : Given → Bool → List String →
    Except UsageFault (Given × Option (Level × List String))
  | g, _, [] => .ok (g, none)
  | g, true, word :: rest =>
    match readWord l g true word with
    | .error e => .error e
    | .ok g => scan l g true rest
  | g, false, word :: rest =>
    if l = .program ∧ g.waiting? = none ∧ isCommandWord word then
      match Level.ofWord? word with
      | some sub => .ok (g, some (sub, rest))
      | none => .error (helpOn rest)
    else
      match word.toList with
      | ['-', '-'] => scan l g true rest
      | '-' :: '-' :: s =>
        match readLong l g s with
        | .error e => .error e
        | .ok g => scan l g false rest
      | '-' :: c :: s =>
        match readShort l g (c :: s) with
        | .error e => .error e
        | .ok g => scan l g false rest
      | _ =>
        match readWord l g false word with
        | .error e => .error e
        | .ok g => scan l g false rest

/--
What was given at a level when all its words are read. A file of configuration that is not given comes
from the environment, and may not be empty there either.
-/
def finish (environment : Option String) (g : Given) : Except UsageFault Given := do
  let g ← g.settle
  if g.config = none ∧ environment = some "" then .error (.missingValue .config) else return g

/-- Which credential was asked for. -/
def selector (g : Given) : Except UsageFault Selector :=
  match g.name, g.id with
  | some _, some _ =>
    if (g.order.find? fun a => a = .name ∨ a = .id) = some .name then
      .error (.conflicting .name .id)
    else .error (.conflicting .id .name)
  | some n, none => .ok (.name n)
  | none, some i => .ok (.id i)
  | none, none => .error .missingArguments

/-- The command that was given at a level. -/
def command (l : Level) (g : Given) : Except UsageFault Command :=
  match l with
  | .program => .error .missingCommand
  | .get => do return .get (← selector g) g.latest
  | .set =>
    match g.name, g.kind with
    | some name, some kind => .ok (.set name kind g.overwrite g.fields g.grants)
    | _, _ => .error .missingArguments
  | .delete =>
    match g.name with
    | some name => .ok (.delete name)
    | none => .error .missingArguments
  | .completions =>
    match g.shell with
    | some shell => .ok (.completions shell)
    | none => .error .missingArguments

/-- The invocation that words make, with the path of a configuration file from the environment. -/
def parse (environment : Option String) (words : List String) : Except UsageFault Invocation := do
  match ← scan .program {} false words with
  | (top, none) =>
    let top ← finish environment top
    if top.order.isEmpty ∧ environment = none then .error .nothingGiven
    else .error .missingCommand
  | (top, some (l, rest)) =>
    let (inner, _) ← scan l {} false rest
    let inner ← finish environment inner
    let command ← command l inner
    let top ← finish environment top
    return ⟨top.verbose || inner.verbose, inner.config <|> top.config <|> environment, command⟩

end Credentials.CommandLine
