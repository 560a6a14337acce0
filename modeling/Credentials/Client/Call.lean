import Credentials.Client.Basic

/-!
# Calls and scripts

A `Call` is one use of a client, and `Call.perform` carries it out. `scripted` is a transport that hands
out answers prepared in advance; when they run out the server fails without a word.
-/

namespace Credentials.Client

variable {σ : Type}

/-- One use of a client. -/
inductive Call
  | write (request : Request)
  | getById (id : String) (expected : Option Kind)
  | getByName (name : Name) (expected : Option Kind)
  | deleteByName (name : Name)

/-- What a call returns. -/
inductive Reply
  | details (d : Details)
  | versions (vs : Versions)
  | done

/-- Carries out a call. -/
def Call.perform (send : Sender σ) : Call → Run σ Reply
  | .write r => do return .details (← Client.write send r)
  | .getById id expected => do return .details (← Client.getById send id expected)
  | .getByName name expected => do return .versions (← Client.getByName send name expected)
  | .deleteByName name => do
    Client.deleteByName send name
    return .done

/-- Carries out calls one after the other, whatever each of them returns. -/
def performAll (send : Sender σ) : List Call → Run σ (List (Except Error Reply))
  | [] => return []
  | c :: cs => do
    let r ← (c.perform send).attempt
    let rs ← performAll send cs
    return r :: rs

/-- An answer prepared in advance. -/
abbrev Answer := Except TransportError Http.Response

/-- The response when no answer is left. -/
def exhausted : Http.Response := ⟨500, none⟩

/-- A transport that hands out prepared answers in order. -/
def scripted : Sender (List Answer) := fun q =>
  ⟨fun answers =>
    match answers with
    | [] => ⟨.ok exhausted, [.sent q], []⟩
    | .ok r :: rest => ⟨.ok r, [.sent q], rest⟩
    | .error e :: rest => ⟨.error (.transport e), [.sent q], rest⟩⟩

end Credentials.Client
