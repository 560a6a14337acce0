import Credentials.Json.Basic

/-!
# Requests and responses

What a client hands to a transport and what it gets back, and what arrives at the server when a request
is sent over the network.
-/

namespace Credentials.Http

/-- The method of a request. -/
inductive Method
  | get
  | put
  | delete
deriving DecidableEq

/-- The word for a method. -/
def Method.text : Method → String
  | get => "GET"
  | put => "PUT"
  | delete => "DELETE"

/-- A request as a client makes it. -/
structure Request where
  method : Method
  path : String
  /-- The pairs of the query in order. -/
  query : List (String × String) := []
  body : Option Json := none

/-- A response as a client sees it. -/
structure Response where
  status : Nat
  body : Option Json

/-- Whether a status says that the request succeeded. -/
def Response.isSuccess (r : Response) : Bool := 200 ≤ r.status && r.status < 300

/-- A request as it arrives at the server. -/
structure Arrival where
  method : Method
  /-- The path and the query. -/
  target : String
  accept : Option String
  authorization : Option String
  contentType : Option String
  body : String

end Credentials.Http
