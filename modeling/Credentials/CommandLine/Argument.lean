import Credentials.Kind
import Credentials.Permission

/-!
# The arguments of the command line

Which commands there are, which arguments each of them takes and how the arguments are called. An
argument that stands for itself is a flag; all others take a value.
-/

namespace Credentials.CommandLine

/-- The program itself or one of its commands. -/
inductive Level
  | program
  | get
  | set
  | delete
  | completions
deriving DecidableEq

/-- The command that a word names. -/
def Level.ofWord? (s : String) : Option Level :=
  if s = "get" then some .get
  else if s = "set" then some .set
  else if s = "delete" then some .delete
  else if s = "completions" then some .completions
  else none

/-- The word that asks for help instead of a command. -/
def helpWord : String := "help"

/-- Whether a word may stand where a command is expected. -/
def isCommandWord (s : String) : Bool := (Level.ofWord? s).isSome || s == helpWord

/-- An argument. -/
inductive Argument
  | verbose
  | config
  | help
  | version
  | name
  | id
  | latest
  | kind
  | overwrite
  | value
  | username
  | password
  | publicKey
  | privateKey
  | certificate
  | ca
  | caName
  | grant
  | shell
deriving DecidableEq

/-- The arguments of a level. -/
def Level.arguments : Level → List Argument
  | program => [.verbose, .config, .help, .version]
  | get => [.name, .id, .latest, .verbose, .config, .help]
  | set =>
    [.name, .kind, .overwrite, .value, .username, .password, .publicKey, .privateKey, .certificate,
      .ca, .caName, .grant, .verbose, .config, .help]
  | delete => [.name, .verbose, .config, .help]
  | completions => [.shell, .verbose, .config, .help]

namespace Argument

/-- The long name, behind two dashes. -/
def long? : Argument → Option String
  | verbose => some "verbose"
  | config => some "config"
  | help => some "help"
  | version => some "version"
  | name => some "name"
  | id => some "id"
  | latest => some "latest"
  | kind => some "type"
  | overwrite => some "overwrite"
  | value => some "value"
  | username => some "username"
  | password => some "password"
  | publicKey => some "public-key"
  | privateKey => some "private-key"
  | certificate => some "certificate"
  | ca => some "ca"
  | caName => some "ca-name"
  | grant => some "grant"
  | shell => none

/-- The short name, behind one dash. -/
def short? : Argument → Option Char
  | verbose => some 'v'
  | config => some 'c'
  | help => some 'h'
  | version => some 'V'
  | name => some 'n'
  | kind => some 't'
  | password => some 'p'
  | grant => some 'g'
  | _ => none

/-- How the value is called, unless the argument is a flag. -/
def valueName? : Argument → Option String
  | verbose | help | version | latest | overwrite => none
  | config => some "CONFIG"
  | name => some "NAME"
  | id => some "ID"
  | kind => some "KIND"
  | value => some "VALUE"
  | username => some "USERNAME"
  | password => some "PASSWORD"
  | publicKey => some "PUBLIC_KEY"
  | privateKey => some "PRIVATE_KEY"
  | certificate => some "CERTIFICATE"
  | ca => some "CA"
  | caName => some "CA_NAME"
  | grant => some "GRANTS"
  | shell => some "SHELL"

/-- Whether the argument stands for itself. -/
def isFlag (a : Argument) : Bool := a.valueName?.isNone

/-- Whether the argument may be given more than once. -/
def isRepeatable : Argument → Bool
  | grant => true
  | _ => false

/-- How messages show the argument. -/
def shown (a : Argument) : String :=
  match a.long?, a.valueName? with
  | some l, some v => "--" ++ l ++ " <" ++ v ++ ">"
  | some l, none => "--" ++ l
  | none, some v => "<" ++ v ++ ">"
  | none, none => ""

end Argument

/-- A shell for which completions can be made. -/
inductive Shell
  | bash
  | zsh
  | fish
  | powerShell
deriving DecidableEq

/-- The word for a shell. -/
def Shell.word : Shell → String
  | bash => "bash"
  | zsh => "zsh"
  | fish => "fish"
  | powerShell => "power-shell"

/-- The shell that a word names. -/
def Shell.ofWord? (s : String) : Option Shell :=
  if s = "bash" then some .bash
  else if s = "zsh" then some .zsh
  else if s = "fish" then some .fish
  else if s = "power-shell" then some .powerShell
  else none

/-- Why a command line is not carried out. -/
inductive UsageFault
  /-- An argument is not known where it stands. -/
  | unknownArgument (text : String)
  /-- A word is no command. -/
  | unknownCommand (word : String)
  /-- An argument lacks its value. -/
  | missingValue (argument : Argument)
  /-- A value is not one of those that are possible. -/
  | impossibleValue (value : String) (argument : Argument)
  /-- A value cannot be read. -/
  | rejectedValue (value : String) (argument : Argument) (reason : String)
  /-- A flag has a value. -/
  | unneededValue (value : String) (argument : Argument)
  /-- An argument is given again. -/
  | repeated (argument : Argument)
  /-- Two arguments exclude each other. -/
  | conflicting (first second : Argument)
  /-- An argument that has to be there is missing. -/
  | missingArguments
  /-- There are arguments but no command. -/
  | missingCommand
  /-- There is nothing, so help is shown. -/
  | nothingGiven
  /-- Help is asked for. -/
  | helpAsked
  /-- The version is asked for. -/
  | versionAsked
deriving DecidableEq

/-- The name of the program. -/
def programName : String := "credhub"

/-- The version of the program. -/
def versionText : String := programName ++ " 0.1.0"

/-- What the program is for. -/
def summary : String := "Read and write credentials on a CredHub server"

end Credentials.CommandLine
