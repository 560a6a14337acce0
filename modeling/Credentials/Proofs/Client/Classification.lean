import Credentials.Proofs.Client.Conversation
import Credentials.Proofs.Document.Reread

/-!
# What a call makes of an answer

Every answer falls under one rule of `Call.Classified`, which says what the call returns: a failure
of the transport and a status outside of success come first, whatever the body, and only then is the
body read. A body that is read as credentials holds those of the kind asked for, item by item, so
that a reply fits its call (`Call.Fits`).
-/

namespace Credentials.Client

open Run

variable {σ : Type}

/-! ## Refusals -/

/-- What the body of a refusing response says. -/
inductive Says : Option Json → String → Prop
  | nothing : Says none "no response body"
  | text (s : String) : Says (some (.string s)) s
  | error {o : Json.Object} {s : String} : o.get? "error" = some (.string s) →
      Says (some (.object o)) s
  | other {j : Json} : (∀ s, j ≠ .string s) →
      (∀ o s, j = .object o → o.get? "error" ≠ some (.string s)) → Says (some j) j.compact

/-- What a body says is the text of the refusal. -/
theorem Says.eq {body : Option Json} {s : String} (h : Says body s) : refusal body = s := by
  cases h with
  | nothing => rfl
  | text s => simp [refusal]
  | error h => simp [refusal, h]
  | @other j hs ho =>
    simp only [refusal]
    split
    · rename_i s hv
      exact absurd (Json.view_eq_iff.1 hv) (hs s)
    · rename_i o hv
      cases he : (o.get? "error").bind Json.string? with
      | none => rfl
      | some s =>
        obtain ⟨e, hget, hstring⟩ := Option.bind_eq_some_iff.1 he
        rw [Json.string?_eq_some_iff.1 hstring] at hget
        exact absurd hget (ho o s (Json.view_eq_iff.1 hv))
    · rfl

theorem exists_says (body : Option Json) : ∃ s, Says body s := by
  cases body with
  | none => exact ⟨_, .nothing⟩
  | some j =>
    by_cases hs : ∃ s, j = .string s
    · obtain ⟨s, rfl⟩ := hs
      exact ⟨s, .text s⟩
    by_cases ho : ∃ o s, j = .object o ∧ o.get? "error" = some (.string s)
    · obtain ⟨o, s, rfl, he⟩ := ho
      exact ⟨s, .error he⟩
    · refine ⟨j.compact, .other (fun s hj => hs ⟨s, hj⟩) ?_⟩
      intro o s hj he
      exact ho ⟨o, s, hj, he⟩

/-- A refusal has the text that its body says, and every body says one. -/
theorem refusal_eq_iff {body : Option Json} {s : String} : refusal body = s ↔ Says body s := by
  constructor
  · rintro rfl
    obtain ⟨s, h⟩ := exists_says body
    rw [h.eq]
    exact h
  · exact Says.eq

/-! ## Answers -/

/-- A status of success. -/
def Succeeds (status : Nat) : Prop := 200 ≤ status ∧ status < 300

/-- What a call returns on an answer, rule by rule. -/
inductive Call.Classified : Call → Answer → Except Error Reply → Prop
  | failed {c : Call} (e : TransportError) : Classified c (.error e) (.error (.transport e))
  | refused {c : Call} {status : Nat} {body : Option Json} {detail : String} :
      ¬ Succeeds status → Says body detail →
        Classified c (.ok ⟨status, body⟩) (.error (.status status detail))
  | deleted {name : Name} {status : Nat} {body : Option Json} : Succeeds status →
      Classified (.deleteByName name) (.ok ⟨status, body⟩) (.ok .done)
  | empty {c : Call} {status : Nat} : (∀ name, c ≠ .deleteByName name) → Succeeds status →
      Classified c (.ok ⟨status, none⟩) (.error (.codec (.malformed .emptyBody)))
  | written {r : Request} {status : Nat} {j : Json} : Succeeds status →
      Classified (.write r) (.ok ⟨status, some j⟩)
        ((Details.ofJson (some r.kind) j).map .details)
  | version {id : String} {expected : Option Kind} {status : Nat} {j : Json} : Succeeds status →
      Classified (.getById id expected) (.ok ⟨status, some j⟩)
        ((Details.ofJson expected j).map .details)
  | versions {name : Name} {expected : Option Kind} {status : Nat} {j : Json} : Succeeds status →
      Classified (.getByName name expected) (.ok ⟨status, some j⟩)
        ((Versions.ofJson expected j).map .versions)

/-- The statuses that count as success are those from 200 to 299. -/
theorem isSuccess_iff {x : Http.Response} : x.isSuccess = true ↔ Succeeds x.status := by
  simp [Http.Response.isSuccess, Succeeds]

theorem succeeded_of_succeeds {status : Nat} (h : Succeeds status) (body : Option Json) :
    succeeded ⟨status, body⟩ = .ok ⟨status, body⟩ :=
  if_pos (isSuccess_iff.2 h)

theorem succeeded_of_not_succeeds {status : Nat} (h : ¬ Succeeds status) (body : Option Json) :
    succeeded ⟨status, body⟩ = .error (.status status (refusal body)) :=
  if_neg fun hx => h (isSuccess_iff.1 hx)

theorem accepted_of_succeeds {status : Nat} (h : Succeeds status) (j : Json) :
    accepted ⟨status, some j⟩ = .ok j := by
  rw [accepted, succeeded_of_succeeds h]
  rfl

/-- Success without a body is a fault wherever a document is expected. -/
theorem accepted_none {status : Nat} (h : Succeeds status) :
    accepted ⟨status, none⟩ = .error (.codec (.malformed .emptyBody)) := by
  rw [accepted, succeeded_of_succeeds h]
  rfl

theorem accepted_of_not_succeeds {status : Nat} (h : ¬ Succeeds status) (body : Option Json) :
    accepted ⟨status, body⟩ = .error (.status status (refusal body)) := by
  rw [accepted, succeeded_of_not_succeeds h]
  rfl

/-- Every call takes an answer without success for a refusal, whatever it asked for. -/
theorem Call.reading_of_not_succeeds (c : Call) {status : Nat} (h : ¬ Succeeds status)
    (body : Option Json) :
    c.reading ⟨status, body⟩ = .error (.status status (refusal body)) := by
  cases c with
  | deleteByName name =>
    rw [Call.reading, succeeded_of_not_succeeds h]
    rfl
  | _ =>
    rw [Call.reading, accepted_of_not_succeeds h]
    rfl

/-- A rule under which an answer falls determines the result of the call. -/
theorem Call.Classified.eq {c : Call} {a : Answer} {x : Except Error Reply}
    (h : c.Classified a x) : a.mapError .transport >>= c.reading = x := by
  cases h with
  | failed e => rfl
  | refused hstatus hsays =>
    rw [← refusal_eq_iff.2 hsays]
    exact c.reading_of_not_succeeds hstatus _
  | deleted hstatus =>
    refine (ok_bind _ _).trans ?_
    rw [Call.reading, succeeded_of_succeeds hstatus]
    rfl
  | empty hc hstatus =>
    refine (ok_bind _ _).trans ?_
    cases c with
    | deleteByName name => exact absurd rfl (hc name)
    | _ =>
      rw [Call.reading, accepted_none hstatus]
      rfl
  | written hstatus | version hstatus | versions hstatus =>
    refine (ok_bind _ _).trans ?_
    rw [Call.reading, accepted_of_succeeds hstatus, ok_bind]

/-- Every answer falls under some rule. -/
theorem Call.exists_classified (c : Call) (a : Answer) : ∃ x, c.Classified a x := by
  cases a with
  | error e => exact ⟨_, .failed e⟩
  | ok response =>
    obtain ⟨status, body⟩ := response
    by_cases hstatus : Succeeds status
    · cases c with
      | deleteByName name => exact ⟨_, .deleted hstatus⟩
      | write r =>
        cases body with
        | none => exact ⟨_, .empty nofun hstatus⟩
        | some j => exact ⟨_, .written hstatus⟩
      | getById id expected =>
        cases body with
        | none => exact ⟨_, .empty nofun hstatus⟩
        | some j => exact ⟨_, .version hstatus⟩
      | getByName name expected =>
        cases body with
        | none => exact ⟨_, .empty nofun hstatus⟩
        | some j => exact ⟨_, .versions hstatus⟩
    · obtain ⟨s, hs⟩ := exists_says body
      exact ⟨_, .refused hstatus hs⟩

/-- The result of a call is the one that the rules give for its answer. -/
theorem Call.result_eq_iff {c : Call} {q : Http.Request} (hq : c.request = .ok q) {a : Answer}
    {x : Except Error Reply} : c.result a = x ↔ c.Classified a x := by
  rw [Call.result_of_request hq]
  constructor
  · rintro rfl
    obtain ⟨x, h⟩ := c.exists_classified a
    rw [h.eq]
    exact h
  · exact Call.Classified.eq

/-! ## Replies -/

/-- What a reply holds when it is one to the call, read from the answer. -/
inductive Call.Fits : Call → Answer → Reply → Prop
  | written {r : Request} {a : Answer} {d : Details} : d.kind = r.kind →
      Fits (.write r) a (.details d)
  | version {id : String} {expected : Option Kind} {a : Answer} {d : Details} :
      (∀ k, expected = some k → d.kind = k) → Fits (.getById id expected) a (.details d)
  | versions {name : Name} {expected : Option Kind} {status : Nat} {j : Json}
      {items : List Json} {vs : Versions} : HasItems j items →
      List.Forall₂ (fun item d => Details.ofJson expected item = .ok d) items vs.toList →
      (∀ k, expected = some k → ∀ d ∈ vs.toList, d.kind = k) →
        Fits (.getByName name expected) (.ok ⟨status, some j⟩) (.versions vs)
  | deleted {name : Name} {a : Answer} : Fits (.deleteByName name) a .done

theorem Details.kind_of_ofJson {expected : Option Kind} {j : Json} {d : Details}
    (h : Details.ofJson expected j = .ok d) : ∀ k, expected = some k → d.kind = k := by
  intro k hk
  exact ((Details.ofJson_eq_ok_iff.1 h).isOfKind k hk).symm

/-- What a call returns is of the kind that it asked for. -/
theorem Call.Classified.fits {c : Call} {a : Answer} {x : Except Error Reply} {reply : Reply}
    (h : c.Classified a x) (hx : x = .ok reply) : c.Fits a reply := by
  cases h with
  | failed | refused | empty => cases hx
  | deleted =>
    cases hx
    exact .deleted
  | written =>
    obtain ⟨d, hd, rfl⟩ := map_eq_ok_iff.1 hx
    exact .written (Details.kind_of_ofJson hd _ rfl)
  | version =>
    obtain ⟨d, hd, rfl⟩ := map_eq_ok_iff.1 hx
    exact .version (Details.kind_of_ofJson hd)
  | versions =>
    obtain ⟨vs, hvs, rfl⟩ := map_eq_ok_iff.1 hx
    obtain ⟨items, hitems, hds⟩ := Versions.ofJson_eq_ok_iff.1 hvs
    refine .versions hitems (hds.imp fun item d hd => Details.ofJson_eq_ok_iff.2 hd) ?_
    intro k hk d hd
    obtain ⟨item, -, hitem⟩ := exists_mem_of_forall₂ hds hd
    exact (hitem.isOfKind k hk).symm

/-! ## Calls -/

/-- A call that makes a request returns on an answer what `Call.Classified` says and nothing else,
and a reply fits the call. -/
theorem answer_is_classified {send : Sender σ} {s : σ} {c : Call} {q : Http.Request} {a : Answer}
    (hq : c.request = .ok q) (ha : ((send q).run s).result = a.mapError .transport) :
    (∀ x, ((c.perform send).run s).result = x ↔ c.Classified a x) ∧
      ∀ reply, ((c.perform send).run s).result = .ok reply → c.Fits a reply := by
  have hresult : ((c.perform send).run s).result = c.result a := by
    rw [← result_unlogged, c.unlogged_perform, hq, ofExcept_ok, pure_bind, result_bind_ofExcept,
      result_unlogged, ha, Call.result_of_request hq]
  rw [hresult]
  constructor
  · intro x
    exact Call.result_eq_iff hq
  · intro reply hreply
    exact ((Call.result_eq_iff hq).1 rfl).fits hreply

/-- A version that a server lists. -/
def listedVersion : Details := ⟨"1", ⟨"/k", 'k', [], by decide, by decide⟩, .password "p", none⟩

/-- The body that lists it. -/
def listedBody : Json :=
  .ofFields [("data", some (.array [.ofFields
    [("id", some (.string "1")),
      ("name", some (.string "k")),
      ("type", some (.string "password")),
      ("value", some (.string "p"))]]))]

theorem listedBody_is_classified :
    let call := Call.getByName listedVersion.name (some .password)
    call.Fits (.ok ⟨299, some listedBody⟩) (.versions ⟨[listedVersion]⟩) ∧
      call.Classified (.ok ⟨300, some listedBody⟩)
        (.error (.status 300 listedBody.compact)) := by
  intro call
  have hq : call.request = .ok ⟨.get, "/api/v1/data", [("name", "/k")], none⟩ := rfl
  have hread (status : Nat) : ((scripted ⟨.get, "/api/v1/data", [("name", "/k")], none⟩).run
      [.ok ⟨status, some listedBody⟩]).result =
        Except.mapError .transport (.ok ⟨status, some listedBody⟩) := rfl
  constructor
  · exact (answer_is_classified hq (hread 299)).2 _ rfl
  · exact ((answer_is_classified hq (hread 300)).1 _).1 rfl

end Credentials.Client
