import Credentials.Http.Percent
import Credentials.Text.Base64
import Credentials.Text.Utf8

/-!
# The user in a URL

In front of the host a URL may name a user and a password, percent encoded. They are not part of what the
server is asked for but go into a header, where `User.header` writes them in base 64. A name that is no
text stays where it is.
-/

namespace Credentials.Http

/-- A user as a URL names it. -/
structure User where
  name : String
  password : Option String
deriving DecidableEq

namespace User

/-- The text that is percent encoded. -/
def decoded? (s : List Char) : Option String := Text.Utf8.strict? (percentDecode s)

/-- The user in front of the `@` of a URL; an empty password is none, and nobody is no user. -/
def ofChars? (s : List Char) : Option User :=
  let behind := (s.dropWhile (· ≠ ':')).drop 1
  let password := if behind.isEmpty then none else decoded? behind
  match decoded? (s.takeWhile (· ≠ ':')) with
  | none => none
  | some name => if name = "" ∧ password = none then none else some ⟨name, password⟩

/-- What stands in front of the host for a user who cannot be decoded, encoded and with the `@`. -/
def textOfChars (s : List Char) : List Char :=
  let name := percentEncode inUserSet (s.takeWhile (· ≠ ':'))
  let behind := percentEncode inUserSet ((s.dropWhile (· ≠ ':')).drop 1)
  if !behind.isEmpty then name ++ ':' :: behind ++ ['@']
  else if !name.isEmpty then name ++ ['@']
  else []

/-- The header for a user. -/
def header (u : User) : String :=
  "Basic " ++ String.ofList (Text.Base64.encode (u.name ++ ":" ++ u.password.getD "").toUTF8.toList)

end User

end Credentials.Http
