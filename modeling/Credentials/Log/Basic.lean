import Credentials.Terminal.Style

/-!
# Log lines

A line of the log is written by an area of the program and has a level, a message and fields. It shows the
level in a column of five, and nothing in it is escaped. The area is not shown, but filters know it by its
path. Connections are made for the program and not by it, so that the paths of their areas begin with other
names than its own.
-/

namespace Credentials

/-- How important a line is. -/
inductive Level
  | trace
  | debug
  | info
  | warn
  | error
deriving DecidableEq

namespace Level

/-- The level in a column of five characters. -/
def label : Level → String
  | trace => "TRACE"
  | debug => "DEBUG"
  | info => " INFO"
  | warn => " WARN"
  | error => "ERROR"

/-- The color of the level. -/
def color : Level → Terminal.Style
  | trace => .magenta
  | debug => .blue
  | info => .green
  | warn => .yellow
  | error => .red

/-- The rank of a level: the more important the higher. -/
def rank : Level → Nat
  | trace => 0
  | debug => 1
  | info => 2
  | warn => 3
  | error => 4

end Level

/-- What writes a line: a part of the program or of the way to a server. -/
inductive Area
  /-- Reading the configuration. -/
  | configuration
  /-- Reading the values of arguments. -/
  | arguments
  /-- Making requests. -/
  | requests
  /-- Writing and reading documents. -/
  | documents
  /-- Calls of the client. -/
  | client
  /-- The way to the server. -/
  | transport
  /-- Choosing a way to connect to a server. -/
  | connector
  /-- Reaching the address of a server. -/
  | socket
deriving DecidableEq

namespace Area

/-- The name under which all lines of this program are written. -/
def root : String := "credhub_client"

/-- The path of an area, by which rules of a filter name it. -/
def path : Area → String
  | configuration => root ++ "::config"
  | arguments => root ++ "::cli::credentials"
  | requests => root ++ "::core::request"
  | documents => root ++ "::core::wire"
  | client => root ++ "::client"
  | transport => root ++ "::transport::http"
  | connector => "reqwest::connect"
  | socket => "hyper_util::client::legacy::connect::http"

end Area

/-- A line of the log. -/
structure LogLine where
  area : Area
  level : Level
  message : String
  /-- Names and values in order. -/
  fields : List (String × String)
deriving DecidableEq

namespace LogLine

/-- The name of the field that holds the message. -/
def messageField : String := "message"

/-- The names of all fields. -/
def fieldNames (l : LogLine) : List String := messageField :: l.fields.map Prod.fst

/-- A field as a line shows it. -/
def fieldText (colored : Bool) (f : String × String) : String :=
  " " ++ Terminal.paint colored [.italic] f.1 ++ Terminal.paint colored [.dim] "=" ++ f.2

/-- The text of a line. -/
def text (colored : Bool) (l : LogLine) : String :=
  Terminal.paint colored [l.level.color] l.level.label ++ " " ++ l.message
    ++ String.join (l.fields.map (fieldText colored))

end LogLine

/-- A truth value as a field shows it. -/
def boolText (b : Bool) : String := if b then "true" else "false"

end Credentials
