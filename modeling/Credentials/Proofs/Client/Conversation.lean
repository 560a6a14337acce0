import Credentials.Client.Call
import Credentials.Proofs.Client
import Mathlib.Data.List.OfFn

/-!
# Conversations

A client that makes one call after the other keeps nothing between them. `Call.request` is the
request that a call makes and `Call.result` what it returns on an answer, both without looking at
any other call. As long as a sender sends once what it is given (`Answering`), carrying out a call
is its request followed by its result (`Call.run_perform`). So are all calls of a run, whichever of
them fail, whether the answers were prepared (`run_performAll_scripted`) or come from a server that
looks at the request alone (`run_performAll_serving`).
-/

namespace Credentials.Client

open Run

variable {σ : Type}

/-! ## One call -/

/-- The request that a call makes, or why it makes none. -/
def Call.request : Call → Except Error Http.Request
  | .write r => .ok { method := .put, path := "/api/v1/data", query := [], body := some r.toJson }
  | .getById id _ =>
    if isAcceptedId id then
      .ok { method := .get, path := "/api/v1/data/" ++ id, query := [], body := none }
    else .error (.validation (.invalidId id))
  | .getByName name _ =>
    .ok { method := .get, path := "/api/v1/data", query := [("name", name.text)], body := none }
  | .deleteByName name =>
    .ok { method := .delete, path := "/api/v1/data", query := [("name", name.text)], body := none }

/-- What a call makes of a response. -/
def Call.reading : Call → Http.Response → Except Error Reply
  | .write r, x => (accepted x >>= Details.ofJson (some r.kind)).map .details
  | .getById _ expected, x => (accepted x >>= Details.ofJson expected).map .details
  | .getByName _ expected, x => (accepted x >>= Versions.ofJson expected).map .versions
  | .deleteByName _, x => (succeeded x).map fun _ => .done

/-- What a call returns on an answer. -/
def Call.result (c : Call) (a : Answer) : Except Error Reply :=
  c.request >>= fun _ => a.mapError .transport >>= c.reading

theorem Call.result_of_request {c : Call} {q : Http.Request} (h : c.request = .ok q) (a : Answer) :
    c.result a = a.mapError .transport >>= c.reading := by
  rw [Call.result, h]
  rfl

/-- A call that is refused does not look at the answer. -/
theorem Call.result_of_refused {c : Call} {e : Error} (h : c.request = .error e) (a : Answer) :
    c.result a = .error e := by
  rw [Call.result, h]
  rfl

theorem versionRequest_eq (id : String) :
    versionRequest id =
      { method := .get, path := "/api/v1/data/" ++ id, query := [], body := none } := by
  have hpath : dataPath ++ "/" = "/api/v1/data/" := rfl
  rw [versionRequest, hpath]

theorem unlogged_deleteByName (send : Sender σ) (name : Name) :
    (deleteByName send name).unlogged =
      (send (nameRequest .delete name)).unlogged >>= fun response =>
        ofExcept ((succeeded response).map fun _ => ()) := by
  rw [deleteByName, unlogged_bind, unlogged_exchange, bind_assoc]
  refine congrArg _ (funext fun response => ?_)
  cases succeeded response <;> rfl

/-- What is done with the outcome of a call changes nothing about how it comes about. -/
theorem unlogged_bind_pure {α β γ : Type} {p : Run σ α} {q : Run σ β} {f : β → Except Error α}
    (h : p.unlogged = q >>= fun b => ofExcept (f b)) (g : α → γ) :
    (p >>= fun a => pure (g a)).unlogged = q >>= fun b => ofExcept ((f b).map g) := by
  rw [unlogged_bind, h, bind_assoc]
  refine congrArg _ (funext fun b => ?_)
  cases f b <;> rfl

/-- Apart from the log, every call is one request and the reading of its response. -/
theorem Call.unlogged_perform (send : Sender σ) (c : Call) :
    (c.perform send).unlogged =
      ofExcept c.request >>= fun q => (send q).unlogged >>= fun x => ofExcept (c.reading x) := by
  cases c with
  | write r => exact unlogged_bind_pure (unlogged_write send r) Reply.details
  | getById id expected =>
    cases hid : isAcceptedId id with
    | false =>
      rw [Call.perform, getById_of_not_isAcceptedId send hid, Call.request, hid]
      rfl
    | true =>
      have h := unlogged_bind_pure (unlogged_getById send hid expected) Reply.details
      rw [versionRequest_eq] at h
      rw [Call.request, if_pos hid]
      exact h
  | getByName name expected =>
    exact unlogged_bind_pure (unlogged_getByName send name expected) Reply.versions
  | deleteByName name =>
    refine (unlogged_bind_pure (unlogged_deleteByName send name) fun _ => Reply.done).trans ?_
    refine congrArg (send _).unlogged.andThen (funext fun x => ?_)
    rw [Call.reading]
    cases succeeded x <;> rfl

/-! ## Senders -/

/-- A sender that sends once what it is given and then has an answer. -/
def Answering (send : Sender σ) (answer : σ → Http.Request → Answer)
    (next : σ → Http.Request → σ) : Prop :=
  ∀ q s, (send q).run s = ⟨(answer s q).mapError .transport, [.sent q], next s q⟩

/-- A script answers with its first answer and is shorter then. -/
theorem answering_scripted :
    Answering scripted (fun answers _ => answers.headD (.ok exhausted))
      (fun answers _ => answers.tail) := by
  intro q answers
  cases answers with
  | nil => rfl
  | cons a rest => cases a <;> rfl

/-- A server whose answer depends on nothing but the request. -/
def serving (server : Http.Request → Answer) : Sender σ := fun q =>
  ⟨fun s => ⟨(server q).mapError .transport, [.sent q], s⟩⟩

/-- A server that is a function answers each request alike and stays as it is. -/
theorem answering_serving (server : Http.Request → Answer) :
    Answering (serving server : Sender σ) (fun _ q => server q) (fun s _ => s) :=
  fun _ _ => rfl

/-- A call that is refused sends nothing and leaves the answers as they are. -/
theorem Call.run_perform_refused (send : Sender σ) {c : Call} {e : Error}
    (hc : c.request = .error e) (s : σ) :
    (c.perform send).unlogged.run s = ⟨.error e, [], s⟩ := by
  rw [c.unlogged_perform, hc]
  rfl

/-- A call that is not refused sends its request and takes one answer. -/
theorem Call.run_perform {send : Sender σ} {answer : σ → Http.Request → Answer}
    {next : σ → Http.Request → σ} (h : Answering send answer next) {c : Call} {q : Http.Request}
    (hc : c.request = .ok q) (s : σ) :
    (c.perform send).unlogged.run s = ⟨c.result (answer s q), [.sent q], next s q⟩ := by
  have hsend : (send q).unlogged.run s =
      ⟨(answer s q).mapError .transport, [.sent q], next s q⟩ := by
    have hrun : (send q).unlogged.run s = { (send q).run s with
        events := ((send q).run s).events.filter fun e => !e.isLogged } := rfl
    rw [hrun, h q s]
    rfl
  rw [c.unlogged_perform, hc, ofExcept_ok, pure_bind, run_bind, hsend, Call.result_of_request hc]
  cases answer s q with
  | error e => rfl
  | ok x => cases hx : c.reading x <;> simp [Except.mapError, bind, Except.bind, hx]

/-! ## Runs -/

/-- The requests among events. -/
def sent (events : List Event) : List Http.Request :=
  events.filterMap fun
    | .sent q => some q
    | _ => none

@[simp] theorem sent_unlogged {α : Type} (p : Run σ α) (s : σ) :
    sent (p.unlogged.run s).events = sent (p.run s).events := by
  refine List.filterMap_filter.trans (congrArg (List.filterMap · _) (funext fun e => ?_))
  cases e <;> rfl

@[simp] theorem sent_map_sent (qs : List Http.Request) : sent (qs.map .sent) = qs := by
  rw [sent, List.filterMap_map]
  exact List.filterMap_some

/-- The requests that calls make, in order. -/
def Call.requests (calls : List Call) : List Http.Request :=
  calls.filterMap fun c => c.request.toOption

theorem run_performAll_cons (send : Sender σ) (c : Call) (cs : List Call) (s : σ) :
    let first := (c.perform send).unlogged.run s
    let others := (performAll send cs).unlogged.run first.rest
    (performAll send (c :: cs)).unlogged.run s =
      ⟨others.result.map (first.result :: ·), first.events ++ others.events, others.rest⟩ := by
  have hattempt : (c.perform send).attempt.unlogged = (c.perform send).unlogged.attempt := rfl
  simp only [performAll, unlogged_bind, hattempt, unlogged_pure]
  rw [run_bind]
  simp only [attempt, run_bind]
  cases ((performAll send cs).unlogged.run ((c.perform send).unlogged.run s).rest).result with
  | error e => simp [Except.map]
  | ok rs => simp [Except.map]

theorem Call.requests_cons_refused {c : Call} {e : Error} (hc : c.request = .error e)
    (cs : List Call) : Call.requests (c :: cs) = Call.requests cs := by
  rw [Call.requests, List.filterMap_cons, hc]
  rfl

theorem Call.requests_cons {c : Call} {q : Http.Request} (hc : c.request = .ok q)
    (cs : List Call) : Call.requests (c :: cs) = q :: Call.requests cs := by
  rw [Call.requests, List.filterMap_cons, hc]
  rfl

/-- The answer that the call at a place consumes: those before it took one for each request. -/
def answerFor (calls : List Call) (answers : List Answer) (i : Nat) : Answer :=
  answers.getD (Call.requests (calls.take i)).length (.ok exhausted)

theorem answerFor_zero (calls : List Call) (answers : List Answer) :
    answerFor calls answers 0 = answers.headD (.ok exhausted) := by
  cases answers <;> rfl

/-- A call that is refused uses up no answer. -/
theorem answerFor_succ_refused {c : Call} {e : Error} (hc : c.request = .error e) (cs : List Call)
    (answers : List Answer) (i : Nat) :
    answerFor (c :: cs) answers (i + 1) = answerFor cs answers i := by
  rw [answerFor, List.take_succ_cons, Call.requests_cons_refused hc]
  rfl

/-- A call that sends its request uses up one answer. -/
theorem answerFor_succ {c : Call} {q : Http.Request} (hc : c.request = .ok q) (cs : List Call)
    (answers : List Answer) (i : Nat) :
    answerFor (c :: cs) answers (i + 1) = answerFor cs answers.tail i := by
  rw [answerFor, List.take_succ_cons, Call.requests_cons hc, List.length_cons]
  cases answers <;> rfl

/-- Calls over a script send their requests in order, and each gets the answer that is left for it. -/
theorem run_performAll_scripted (calls : List Call) (answers : List Answer) :
    (performAll scripted calls).unlogged.run answers =
      ⟨.ok (calls.mapIdx fun i c => c.result (answerFor calls answers i)),
        (Call.requests calls).map .sent, answers.drop (Call.requests calls).length⟩ := by
  induction calls generalizing answers with
  | nil => rfl
  | cons c cs ih =>
    -- The calls behind find all answers after a refusal, and all but the first otherwise.
    rw [run_performAll_cons, List.mapIdx_cons, answerFor_zero]
    cases hc : c.request with
    | error e =>
      rw [Call.run_perform_refused scripted hc, ih, Call.result_of_refused hc,
        Call.requests_cons_refused hc]
      simp only [answerFor_succ_refused hc]
      rfl
    | ok q =>
      rw [Call.run_perform answering_scripted hc, ih, Call.requests_cons hc]
      simp only [answerFor_succ hc, List.length_cons, ← List.drop_tail]
      rfl

/-- What a call returns when a server answers its request. -/
def Call.against (server : Http.Request → Answer) (c : Call) : Except Error Reply :=
  c.request >>= fun q => c.result (server q)

/-- Calls to a server that is a function get what each of them would get alone. -/
theorem run_performAll_serving (server : Http.Request → Answer) (calls : List Call) (s : σ) :
    (performAll (serving server) calls).unlogged.run s =
      ⟨.ok (calls.map (Call.against server)), (Call.requests calls).map .sent, s⟩ := by
  induction calls with
  | nil => rfl
  | cons c cs ih =>
    rw [run_performAll_cons, List.map_cons, Call.against]
    cases hc : c.request with
    | error e =>
      rw [Call.run_perform_refused _ hc, ih, Call.requests_cons_refused hc]
      rfl
    | ok q =>
      rw [Call.run_perform (answering_serving server) hc, ih, Call.requests_cons hc]
      rfl

/-- A client makes one request for each call, in order, but none for an identifier that it refuses.
What a call returns depends on the call and on the answer to its request, and on nothing that was
before; so calls in another order return the same, in that order, where answers depend on requests
alone. -/
theorem calls_are_independent :
    (∀ (calls : List Call) (answers : List Answer),
      sent ((performAll scripted calls).run answers).events = Call.requests calls ∧
        ((performAll scripted calls).run answers).result =
          .ok (calls.mapIdx fun i c => c.result (answerFor calls answers i))) ∧
      ∀ (server : Http.Request → Answer) (n : Nat) (calls : Fin n → Call) (s s' : σ)
        (order : Equiv.Perm (Fin n)), ∃ results : Fin n → Except Error Reply,
        ((performAll (serving server) (List.ofFn calls)).run s).result =
            .ok (List.ofFn results) ∧
          ((performAll (serving server) (List.ofFn (calls ∘ order))).run s').result =
            .ok (List.ofFn (results ∘ order)) := by
  constructor
  · intro calls answers
    rw [← sent_unlogged, ← result_unlogged, run_performAll_scripted]
    exact ⟨sent_map_sent _, rfl⟩
  · intro server n calls s s' order
    refine ⟨Call.against server ∘ calls, ?_, ?_⟩
    · rw [← result_unlogged, run_performAll_serving, List.map_ofFn]
    · rw [← result_unlogged, run_performAll_serving, List.map_ofFn]
      rfl

example (name : Name) :
    ((performAll scripted [.getById "a/b" none, .deleteByName name, .deleteByName name]).run
      [.error (.timeout "slow"), .ok ⟨204, none⟩]).result =
        .ok [.error (.validation (.invalidId "a/b")), .error (.transport (.timeout "slow")),
          .ok .done] := rfl

end Credentials.Client
