import Credentials.Text.Utf8

/-!
# Files

What a program finds under a path: a file with its content, a directory, or a failure. A file is read
as text, so bytes that are no UTF-8 are a failure too.
-/

namespace Credentials

/-- Why a file cannot be used. -/
inductive FileError
  | notFound
  | notDirectory
  | isDirectory
  | nameTooLong
  | denied
  | nulInPath
  | notText
deriving DecidableEq

/-- The wording of a failure. -/
def FileError.message : FileError → String
  | notFound => "No such file or directory (os error 2)"
  | notDirectory => "Not a directory (os error 20)"
  | isDirectory => "Is a directory (os error 21)"
  | nameTooLong => "File name too long (os error 36)"
  | denied => "Permission denied (os error 13)"
  | nulInPath => "file name contained an unexpected NUL byte"
  | notText => "stream did not contain valid UTF-8"

/-- What a file or a message holds: text, or bytes that may be no text. -/
inductive Content
  | text (s : String)
  | bytes (b : List UInt8)

namespace Content

/-- The text of a content that is UTF-8. -/
def text? : Content → Option String
  | text s => some s
  | bytes b => Text.Utf8.strict? b

/-- The text of any content, with U+FFFD for what is no character. -/
def lossy : Content → String
  | text s => s
  | bytes b => Text.Utf8.lossy b

end Content

/-- What a path leads to. -/
inductive Entry
  | file (content : Content)
  | directory
  /-- There is something, but its content is out of reach. -/
  | unreadable (error : FileError)
  | absent (error : FileError)

namespace Entry

/-- Whether there is something. -/
def isPresent : Entry → Bool
  | absent _ => false
  | _ => true

/-- The content of a file. -/
def content : Entry → Except FileError Content
  | file c => .ok c
  | directory => .error .isDirectory
  | unreadable e | absent e => .error e

/-- The text of a file. -/
def readText (e : Entry) : Except FileError String :=
  match e.content with
  | .error e => .error e
  | .ok c =>
    match c.text? with
    | some s => .ok s
    | none => .error .notText

end Entry

end Credentials
