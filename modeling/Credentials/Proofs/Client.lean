import Credentials.Proofs.Session

/-!
# Calls apart from the log

A call of the client sends one request and reads the response, and does nothing else but write to the
log: apart from the log it is the sender followed by a function of the response
(`unlogged_write`, `unlogged_getById`, `unlogged_getByName`). What the response brings, or why it
counts as a failure, is `Client.accepted`.
-/

namespace Credentials.Client

open Run

variable {σ : Type}

/-- A response of success, or the failure that another one stands for. -/
def succeeded (r : Http.Response) : Except Error Http.Response :=
  if r.isSuccess then .ok r else .error (.status r.status (refusal r.body))

/-- The body of a response of success. -/
def accepted (r : Http.Response) : Except Error Json :=
  succeeded r >>= fun r =>
    match r.body with
    | some j => .ok j
    | none => .error (.malformed .emptyBody)

/-- Apart from the log, an exchange is one request whose response is refused unless it succeeded. -/
theorem unlogged_exchange (send : Sender σ) (q : Http.Request) :
    (exchange send q).unlogged = (send q).unlogged >>= fun r => ofExcept (succeeded r) := by
  rw [exchange, unlogged_bind, unlogged_log, pure_bind, unlogged_bind]
  refine congrArg _ (funext fun r => ?_)
  unfold succeeded
  split
  · rfl
  · rfl

/-- To fetch is to exchange and to want a body. -/
theorem unlogged_fetch (send : Sender σ) (q : Http.Request) :
    (fetch send q).unlogged = (send q).unlogged >>= fun r => ofExcept (accepted r) := by
  rw [fetch, unlogged_bind, unlogged_exchange, bind_assoc]
  refine congrArg _ (funext fun r => ?_)
  unfold accepted
  rw [← ofExcept_bind]
  refine congrArg _ (funext fun r => ?_)
  cases r.body <;> rfl

/-- A call that sends a request and reads the body of the response with `read`. -/
theorem unlogged_fetch_bind {α : Type} (send : Sender σ) (q : Http.Request) {f : Json → Run σ α}
    {read : Json → Except Error α} (h : ∀ j, (f j).unlogged = ofExcept (read j)) :
    (fetch send q >>= f).unlogged =
      (send q).unlogged >>= fun r => ofExcept (accepted r >>= read) := by
  simp only [unlogged_bind, unlogged_fetch, h, bind_assoc, ofExcept_bind]

theorem unlogged_write (send : Sender σ) (r : Request) :
    (write send r).unlogged = (send (storeRequest r.toJson)).unlogged >>= fun response =>
      ofExcept (accepted response >>= Details.ofJson (some r.kind)) := by
  rw [write, unlogged_bind, r.unlogged_encode, pure_bind]
  exact unlogged_fetch_bind send _ (Details.unlogged_decode _)

theorem unlogged_getById (send : Sender σ) {id : String} (h : isAcceptedId id = true)
    (expected : Option Kind) :
    (getById send id expected).unlogged = (send (versionRequest id)).unlogged >>= fun response =>
      ofExcept (accepted response >>= Details.ofJson expected) := by
  rw [getById, if_pos h]
  exact unlogged_fetch_bind send _ (Details.unlogged_decode _)

/-- An identifier that is not accepted is refused before anything is done. -/
theorem getById_of_not_isAcceptedId (send : Sender σ) {id : String} (h : isAcceptedId id = false)
    (expected : Option Kind) :
    getById send id expected = fail (.validation (.invalidId id)) := by
  rw [getById, if_neg (by simp [h])]

theorem unlogged_getByName (send : Sender σ) (name : Name) (expected : Option Kind) :
    (getByName send name expected).unlogged =
      (send (nameRequest .get name)).unlogged >>= fun response =>
        ofExcept (accepted response >>= Versions.ofJson expected) :=
  unlogged_fetch_bind send _ (Versions.unlogged_decode _)

end Credentials.Client
