import Credentials.Client.Basic
import Credentials.Http.Reply
import Credentials.Http.Scheme
import Credentials.World

/-!
# Requests over HTTP

A `Transport` knows the URL that all paths are appended to and the token that goes with each request.
`Transport.configure` makes one from options, and `Transport.send` sends a request over the network of the
world to a server, whose replies are the supply of the run, and goes on to wherever its answers send the
client. A user in the URL takes the place of the token. A body of blanks is no body, and one that is not
JSON becomes a string.

The way to a server is the world's: `World.passage` says what comes of names, proxies, trust and the time
that a connection takes. Of the headers of an answer only the place it sends the client to is known, and of
a request only those that stand in an `Arrival`.
-/

namespace Credentials.Http

/-- A way to a server. -/
structure Transport where
  /-- The URL to which paths are appended. -/
  base : String
  token : Option String
  options : Options
  /-- What the files of certificates hold. -/
  roots : List Content

namespace Transport

variable {σ : Type}

/-- A text without the slashes at its end. -/
def trimSlashes (s : String) : String :=
  String.ofList ((s.toList.reverse.dropWhile (· == '/')).reverse)

/-- How a certificate begins in a file. -/
def certificateMark : List Char := "-----BEGIN CERTIFICATE-----".toList

/-- Whether a file holds what is marked as a certificate. -/
def holdsCertificate (c : Content) : Bool :=
  (c.lossy.toList.splitOn '\n').any fun line => certificateMark.isPrefixOf line

/-- Whether a client can be made that trusts the certificates in a file; where nothing is marked as one,
there is nothing to be trusted. -/
def isTrustable (w : World) (c : Content) : Bool := !holdsCertificate c || w.isCertificate c

/-- Reads the files of certificates in order. -/
def readCertificates (w : World) : List String → Run σ (List Content)
  | [] => return []
  | path :: paths => do
    match ← w.readContent path with
    | .error e => .fail (.transport (.certificate path e.message))
    | .ok c =>
      .log .transport .debug "added CA certificate" [("path", path)]
      return c :: (← readCertificates w paths)

/-- An optional duration as the log shows it. -/
def timeoutText : Option Duration → String
  | none => "None"
  | some d => "Some(" ++ d.text ++ ")"

/-- The error for a client or a request that cannot be made. -/
def unbuildable : Error := .transport (.http "builder error")

/-- The error for a URL of which no server can be asked. -/
def unaskable (u : Url) : Error :=
  .transport (.http ("builder error for url (" ++ u.text ++ ")"))

/-- Makes a transport. -/
def configure (w : World) (base : String) (o : Options) : Run σ Transport := do
  let base := trimSlashes base
  if hasWebScheme base then
    let roots ← readCertificates w (o.certificateFiles.getD [])
    if roots.all (isTrustable w) then
      .log .transport .info "configured http transport"
        [("base_url", base), ("custom_certs", boolText o.usesCustomCertificates),
          ("connection_timeout", timeoutText o.connectionTimeout),
          ("read_timeout", timeoutText o.readTimeout)]
      return ⟨base, none, o, roots⟩
    else .fail unbuildable
  else .fail (.transport (.invalidUrl base))

/-- Whether a character may stand in a header: no control but the tab. -/
def isHeaderChar (c : Char) : Bool := (0x20 ≤ c.toNat && c.toNat != 0x7F) || c == '\t'

/-- The header for a token. -/
def authorization (token : String) : String := "Bearer " ++ token

/-- Whether a token may stand in a header. -/
def isAcceptedToken (token : Option String) : Bool :=
  match token with
  | none => true
  | some t => t.toList.all isHeaderChar

/-- How many nanoseconds an answer may take unless the options say it. -/
def usualPatience : Nat := 30000000000

/-- How many nanoseconds an answer may take. -/
def patience (t : Transport) : Nat :=
  (t.options.readTimeout.map Duration.toNanos).getD usualPatience

/-- What a request asks the server for, and from which URL. -/
def url? (t : Transport) (q : Request) : Option Url :=
  (Url.ofString? (t.base ++ q.path)).map fun u => u.withPairs q.query

/-- The request as it arrives. -/
def arrival (t : Transport) (q : Request) (u : Url) : Arrival :=
  { method := q.method
    target := u.target
    accept := some "application/json"
    authorization := u.user.map User.header <|> t.token.map authorization
    contentType := q.body.map fun _ => "application/json"
    body := (q.body.map Json.compact).getD "" }

/-- The body that a text stands for. -/
def bodyOf (text : String) : Option Json :=
  if Text.isAllBlank text then none
  else
    match Json.read text with
    | .ok j => some j
    | .error _ => some (.string text)

/-- Hands a request to the server, which replies with the next of its replies. -/
def deliver (a : Arrival) : Run (List Reply) Reply :=
  ⟨fun replies =>
    match replies with
    | [] => ⟨.ok .exhausted, [.arrived a], []⟩
    | r :: rest => ⟨.ok r, [.arrived a], rest⟩⟩

/-- Makes a connection for a URL, and says whether it leads to a proxy. -/
def connect (t : Transport) (w : World) (asked u : Url) : Run σ Bool := do
  let passage := w.passage t.options t.roots u
  .log .connector .debug ("starting new connection: " ++ u.origin ++ "/") []
  if passage ≠ .proxied ∧ u.host.isAddress then
    .log .socket .debug ("connecting to " ++ u.address) []
  if passage = .direct ∨ passage = .untrusted then
    .log .socket .debug ("connected to " ++ u.address) []
  match passage with
  | .direct => return false
  | .proxied => return true
  | .late => .fail (.transport (.timeout (unanswered asked)))
  | .refused | .untrusted => .fail (.transport (.connect (unanswered asked)))

/-- How many times a client lets itself be sent elsewhere. -/
def maxRedirects : Nat := 10

/-- The error when a client is sent elsewhere too often. -/
def endless (asked : Url) : Error :=
  .transport (.http ("error following redirect for url (" ++ asked.text ++ ")"))

/-- Asks at a URL, and waits for the answer so many nanoseconds. -/
def ask (t : Transport) (w : World) (asked : Url) (patience : Nat) (u : Url) (a : Arrival) :
    Run (List Reply) Answer := do
  let isProxied ← connect t w asked u
  let reply ← deliver { a with target := u.targetThrough isProxied }
  .ofExcept (reply.inTime asked patience)

/-- Asks at a URL and then wherever the answers send the client, but only so many times, and waits for so
many nanoseconds in all. -/
def follow (t : Transport) (w : World) (asked : Url) :
    Nat → Nat → Url → Arrival → Run (List Reply) (Nat × String)
  | 0, patience, u, a => do
    let answer ← t.ask w asked patience u a
    if answer.redirect?.isSome then .fail (endless asked) else .ofExcept answer.read
  | times + 1, patience, u, a => do
    let answer ← t.ask w asked patience u a
    match answer.redirect? with
    | none => .ofExcept answer.read
    | some v =>
      follow t w asked times (patience - answer.delay) v (a.redirected answer.status u v)

/-- Sends a request. -/
def send (t : Transport) (w : World) : Sender (List Reply) := fun q => do
  .log .transport .trace "sending request" [("method", q.method.text), ("url", t.base ++ q.path)]
  match t.url? q with
  | none => .fail unbuildable
  | some u =>
    if isAcceptedToken t.token then
      if u.isAskable then
        let (status, text) ← t.follow w u maxRedirects t.patience u (t.arrival q u)
        .log .transport .debug "response received"
          [("method", q.method.text), ("path", q.path), ("status", toString status)]
        return ⟨status, bodyOf text⟩
      else .fail (unaskable u)
    else .fail unbuildable

end Transport

end Credentials.Http
