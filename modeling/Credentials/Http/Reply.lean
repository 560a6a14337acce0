import Credentials.Error
import Credentials.Http.Message
import Credentials.Http.Url

/-!
# Replies of a server

What comes back for a request, if anything does. An answer takes its time, and the client does not wait
for ever. An answer with one of five statuses may name the URL of another place on a web server; the client
then asks there (`Answer.redirect?`), if a server can be asked for it at all. All but two of these statuses
turn the request into one that only fetches, and an authorization is not shown to another server
(`Arrival.redirected`).
-/

namespace Credentials.Http

/-- An answer of a server. -/
structure Answer where
  status : Nat
  body : Content
  /-- The body is shorter than announced. -/
  isShort : Bool := false
  /-- The URL at which the client is told to ask. -/
  next : Option Url := none
  /-- How many nanoseconds it takes to come. -/
  delay : Nat := 0

/-- What a server does with a request. -/
inductive Reply
  | answer (a : Answer)
  /-- Never answers. -/
  | hang
  /-- Closes the connection. -/
  | drop

/-- The reply when no other is prepared. -/
def Reply.exhausted : Reply := .answer { status := 500, body := .text "" }

/-- What is wrong when no answer comes from a URL. -/
def unanswered (u : Url) : String := "error sending request for url (" ++ u.text ++ ")"

/-- The answer that a client gets who waits for so many nanoseconds. -/
def Reply.inTime (asked : Url) (patience : Nat) : Reply → Except Error Answer
  | .hang => .error (.transport (.timeout (unanswered asked)))
  | .drop => .error (.transport (.http (unanswered asked)))
  | .answer a =>
    if a.delay ≤ patience then .ok a else .error (.transport (.timeout (unanswered asked)))

/-- Whether a response of this status has no body, whatever the server sends. -/
def isBodiless (status : Nat) : Bool := status == 204 || status == 304

/-- The status and the text that an answer brings, or why it brings none. -/
def Answer.read (a : Answer) : Except Error (Nat × String) :=
  if isBodiless a.status then .ok (a.status, "")
  else if a.isShort then .error (.transport (.http "error decoding response body"))
  else .ok (a.status, a.body.lossy)

/-! ## Being sent elsewhere -/

/-- Whether a client that is sent elsewhere repeats its request there. -/
def keepsRequest (status : Nat) : Bool := status == 307 || status == 308

/-- Whether an answer of this status may send a client elsewhere. -/
def isRedirection (status : Nat) : Bool :=
  status == 301 || status == 302 || status == 303 || keepsRequest status

/-- Where an answer sends the client. -/
def Answer.redirect? (a : Answer) : Option Url :=
  if isRedirection a.status then a.next.filter Url.isAskable else none

/-- Where a reply sends the client. -/
def Reply.redirect? : Reply → Option Url
  | .answer a => a.redirect?
  | _ => none

/-- The request of a client that is sent from one URL to another. -/
def Arrival.redirected (a : Arrival) (status : Nat) (u v : Url) : Arrival :=
  let authorization := if u.address = v.address then a.authorization else none
  if keepsRequest status then { a with authorization }
  else { a with authorization, method := .get, contentType := none, body := "" }

/-- What stands in the first line of a request; a proxy is told the host too, unless the connection is
encrypted. -/
def Url.targetThrough (u : Url) (isProxied : Bool) : String :=
  if isProxied && !u.secure then u.origin ++ u.target else u.target

end Credentials.Http
