import Credentials.Proofs.Client
import Credentials.Proofs.Outcome

/-!
# Sending apart from the log

Whether a request gets anywhere is settled before it is sent: by its URL, by what the transport may
send, and by the way to the server (`Transport.destination`). Apart from the log, a request that gets
somewhere is one arrival and the use of one reply, and again one of each for every reply that sends the
client elsewhere (`Transport.unlogged_send`, `Transport.unlogged_follow`). So as many requests arrive as
there are such replies in front, and one more, up to a bound (`Transport.length_arrivals_follow`).
-/

namespace Credentials.Http

open Run

/-- How many replies in front send the client elsewhere. -/
def sentElsewhere (replies : List Reply) : Nat :=
  (replies.takeWhile fun r => r.redirect?.isSome).length

theorem sentElsewhere_cons_of_some {r : Reply} {v : Url} (h : r.redirect? = some v)
    (replies : List Reply) : sentElsewhere (r :: replies) = sentElsewhere replies + 1 := by
  simp [sentElsewhere, h]

/-- Only the first reply matters to whether a client is sent elsewhere at all. -/
theorem sentElsewhere_eq_zero_iff {replies : List Reply} :
    sentElsewhere replies = 0 ↔ ∀ r ∈ replies.head?, r.redirect? = none := by
  cases replies with
  | nil => simp [sentElsewhere]
  | cons r replies => cases h : r.redirect? <;> simp [sentElsewhere, h]

namespace Transport

/-! ## The way to a server -/

/-- Whether the way to the server of a URL leads to a proxy, or why it leads nowhere. -/
def reached (t : Transport) (w : World) (asked u : Url) : Except Error Bool :=
  match w.passage t.options t.roots u with
  | .direct => .ok false
  | .proxied => .ok true
  | .late => .error (.transport (.timeout (unanswered asked)))
  | .refused | .untrusted => .error (.transport (.connect (unanswered asked)))

/-- Requests for a URL may be sent, and get to its server or to a proxy. -/
structure Opens (t : Transport) (w : World) (u : Url) : Prop where
  token : isAcceptedToken t.token = true
  askable : u.isAskable = true
  passage : w.passage t.options t.roots u = .direct ∨ w.passage t.options t.roots u = .proxied

/-- The URL for which a request arrives, or why it does not. -/
def destination (t : Transport) (w : World) (q : Request) : Except Error Url :=
  (t.url? q).elim (.error unbuildable) fun u =>
    if isAcceptedToken t.token then
      if u.isAskable then (t.reached w u u).map fun _ => u else .error (unaskable u)
    else .error unbuildable

/-- The request arrives at the server of the world. -/
def Reaches (t : Transport) (w : World) (q : Request) : Prop := ∃ u, t.destination w q = .ok u

/-- A way leads somewhere if it leads to the server or to a proxy. -/
theorem exists_reached_eq_ok_iff {t : Transport} {w : World} {asked u : Url} :
    (∃ b, t.reached w asked u = .ok b) ↔
      w.passage t.options t.roots u = .direct ∨ w.passage t.options t.roots u = .proxied := by
  unfold reached
  cases w.passage t.options t.roots u <;> simp

theorem reached_of_direct {t : Transport} {w : World} {asked u : Url}
    (h : w.passage t.options t.roots u = .direct) : t.reached w asked u = .ok false := by
  rw [reached, h]

/-- A request has a destination if it is for a URL that it may be sent to and gets to. -/
theorem destination_eq_ok_iff {t : Transport} {w : World} {q : Request} {u : Url} :
    t.destination w q = .ok u ↔ t.url? q = some u ∧ t.Opens w u := by
  have hopens {v : Url} : t.Opens w v ↔ isAcceptedToken t.token = true ∧ v.isAskable = true ∧
      ∃ b, t.reached w v v = .ok b := by
    rw [exists_reached_eq_ok_iff]
    exact ⟨fun h => ⟨h.token, h.askable, h.passage⟩, fun ⟨h, h', h''⟩ => ⟨h, h', h''⟩⟩
  unfold destination
  cases t.url? q with
  | none => simp
  | some v =>
    simp only [Option.elim_some, Option.some.injEq]
    constructor
    · intro h
      split at h
      · split at h
        · obtain ⟨b, hb, rfl⟩ := map_eq_ok_iff.1 h
          exact ⟨rfl, hopens.2 ⟨‹_›, ‹_›, b, hb⟩⟩
        · cases h
      · cases h
    · rintro ⟨rfl, h⟩
      obtain ⟨htoken, haskable, b, hb⟩ := hopens.1 h
      rw [if_pos htoken, if_pos haskable, hb]
      rfl

theorem unlogged_deliver (a : Arrival) : (deliver a).unlogged = deliver a := by
  refine Run.ext (funext fun replies => ?_)
  cases replies <;> rfl

/-- Apart from the log, making a connection is finding out where it leads. -/
theorem unlogged_connect {σ : Type} (t : Transport) (w : World) (asked u : Url) :
    (connect t w asked u : Run σ Bool).unlogged = ofExcept (t.reached w asked u) := by
  unfold connect reached
  cases w.passage t.options t.roots u <;> cases u.host.isAddress <;> rfl

/-! ## Requests and replies -/

section

variable {t : Transport} {w : World} {asked u : Url}

theorem unlogged_ask (t : Transport) (w : World) (asked : Url) (patience : Nat) (u : Url)
    (a : Arrival) :
    (t.ask w asked patience u a).unlogged =
      ofExcept (t.reached w asked u) >>= fun isProxied =>
        deliver { a with target := u.targetThrough isProxied } >>= fun r =>
          ofExcept (r.inTime asked patience) := by
  rw [ask]
  simp only [unlogged_bind, unlogged_connect, unlogged_deliver, unlogged_ofExcept]

/-- A request that gets somewhere arrives there and takes the next reply. -/
theorem run_unlogged_ask {isProxied : Bool} (h : t.reached w asked u = .ok isProxied)
    (patience : Nat) (a : Arrival) (replies : List Reply) :
    (t.ask w asked patience u a).unlogged.run replies =
      ⟨(replies.headD .exhausted).inTime asked patience,
        [.arrived { a with target := u.targetThrough isProxied }], replies.tail⟩ := by
  rw [unlogged_ask, h]
  cases replies with
  | nil => cases hreply : Reply.exhausted.inTime asked patience <;> simp [run_bind, deliver, hreply]
  | cons r replies => cases hreply : r.inTime asked patience <;> simp [run_bind, deliver, hreply]

/-- What a client does about an answer. -/
def goOn (t : Transport) (w : World) (asked : Url) (times patience : Nat) (u : Url) (a : Arrival)
    (answer : Answer) : Run (List Reply) (Nat × String) :=
  match answer.redirect?, times with
  | none, _ => ofExcept answer.read
  | some _, 0 => fail (endless asked)
  | some v, times + 1 =>
    t.follow w asked times (patience - answer.delay) v (a.redirected answer.status u v)

/-- Following is asking once and going on from the answer. -/
theorem follow_eq (t : Transport) (w : World) (asked : Url) (times patience : Nat) (u : Url)
    (a : Arrival) :
    t.follow w asked times patience u a =
      t.ask w asked patience u a >>= t.goOn w asked times patience u a := by
  cases times with
  | zero =>
    rw [follow]
    refine congrArg _ (funext fun answer => ?_)
    unfold goOn
    cases answer.redirect? <;> rfl
  | succ times =>
    rw [follow]
    refine congrArg _ (funext fun answer => ?_)
    unfold goOn
    cases answer.redirect? <;> rfl

/-- An answer is in time if it takes no longer than the client waits. -/
theorem inTime_eq_ok_iff {patience : Nat} {r : Reply} {answer : Answer} :
    r.inTime asked patience = .ok answer ↔ r = .answer answer ∧ answer.delay ≤ patience := by
  cases r with
  | answer a =>
    simp only [Reply.inTime, Reply.answer.injEq]
    constructor
    · intro h
      split at h
      · cases h
        exact ⟨rfl, ‹_›⟩
      · cases h
    · rintro ⟨rfl, h⟩
      rw [if_pos h]
  | _ => simp [Reply.inTime]

/-- What a reply comes to that does not send the client elsewhere. -/
def outcomeOf (asked : Url) (patience : Nat) (r : Reply) : Except Error (Nat × String) :=
  r.inTime asked patience >>= Answer.read

/-- A reply that does not send the client elsewhere ends the matter. -/
theorem run_unlogged_follow {isProxied : Bool} (h : t.reached w asked u = .ok isProxied)
    (times patience : Nat) (a : Arrival) {replies : List Reply}
    (hstays : (replies.headD .exhausted).redirect? = none) :
    (t.follow w asked times patience u a).unlogged.run replies =
      ⟨outcomeOf asked patience (replies.headD .exhausted),
        [.arrived { a with target := u.targetThrough isProxied }], replies.tail⟩ := by
  rw [follow_eq, unlogged_bind, run_bind, run_unlogged_ask h, outcomeOf]
  cases hanswer : (replies.headD .exhausted).inTime asked patience with
  | error e => rfl
  | ok answer =>
    rw [(inTime_eq_ok_iff.1 hanswer).1] at hstays
    have hread : t.goOn w asked times patience u a answer = ofExcept answer.read := by
      unfold goOn
      rw [show answer.redirect? = none from hstays]
    simp only [hread, unlogged_ofExcept, ok_bind]
    cases answer.read <;> rfl

/-- Whatever the replies are, the first request that arrives is the one that was made. What comes
behind it are the requests of a client that was sent elsewhere. -/
theorem arrivals_follow_of_reached {isProxied : Bool} (h : t.reached w asked u = .ok isProxied)
    (times patience : Nat) (a : Arrival) (replies : List Reply) :
    ∃ later, Program.arrivals ((t.follow w asked times patience u a).run replies).events =
        { a with target := u.targetThrough isProxied } :: later ∧
      (later = [] ∨ ∃ times' patience' v a', times = times' + 1 ∧
        (replies.headD .exhausted).redirect? = some v ∧
        later = Program.arrivals
          ((t.follow w asked times' patience' v a').run replies.tail).events) := by
  rw [← arrivals_unlogged, follow_eq, unlogged_bind, run_bind, run_unlogged_ask h]
  cases hanswer : (replies.headD .exhausted).inTime asked patience with
  | error e => exact ⟨[], rfl, .inl rfl⟩
  | ok answer =>
    refine ⟨Program.arrivals ((t.goOn w asked times patience u a answer).run replies.tail).events,
      ?_, ?_⟩
    · rw [← arrivals_unlogged]
      rfl
    · have hredirect : (replies.headD .exhausted).redirect? = answer.redirect? :=
        congrArg Reply.redirect? (inTime_eq_ok_iff.1 hanswer).1
      rw [hredirect]
      unfold goOn
      cases answer.redirect? with
      | none =>
        refine .inl ?_
        cases answer.read <;> rfl
      | some v =>
        cases times with
        | zero => exact .inl rfl
        | succ times => exact .inr ⟨times, _, v, _, rfl, rfl, rfl⟩

/-- Without a way to the server nothing arrives. -/
theorem run_unlogged_follow_of_error {e : Error} (h : t.reached w asked u = .error e)
    (times patience : Nat) (a : Arrival) (replies : List Reply) :
    (t.follow w asked times patience u a).unlogged.run replies = ⟨.error e, [], replies⟩ := by
  rw [follow_eq, unlogged_bind, run_bind, unlogged_ask, h]
  rfl

/-- One request arrives at most, or one more than for a client that was sent elsewhere. -/
theorem length_arrivals_follow_step (t : Transport) (w : World) (asked : Url)
    (times patience : Nat) (u : Url) (a : Arrival) (replies : List Reply) :
    (Program.arrivals ((t.follow w asked times patience u a).run replies).events).length ≤ 1 ∨
      ∃ times' patience' v a', times = times' + 1 ∧ (replies.headD .exhausted).redirect? = some v ∧
        (Program.arrivals ((t.follow w asked times patience u a).run replies).events).length =
          (Program.arrivals
            ((t.follow w asked times' patience' v a').run replies.tail).events).length + 1 := by
  cases h : t.reached w asked u with
  | error e =>
    rw [← arrivals_unlogged, run_unlogged_follow_of_error h]
    exact .inl (Nat.zero_le _)
  | ok isProxied =>
    obtain ⟨later, harrivals, rfl | ⟨times', patience', v, a', htimes, hsome, rfl⟩⟩ :=
      arrivals_follow_of_reached h times patience a replies
    · rw [harrivals]
      exact .inl (Nat.le_refl 1)
    · rw [harrivals, List.length_cons]
      exact .inr ⟨times', patience', v, a', htimes, hsome, rfl⟩

/-- For each reply in front that sends the client elsewhere one more request arrives, up to a bound. -/
theorem length_arrivals_follow (times patience : Nat) (u : Url) (a : Arrival)
    (replies : List Reply) :
    (Program.arrivals ((t.follow w asked times patience u a).run replies).events).length ≤
      min times (sentElsewhere replies) + 1 := by
  -- Being sent elsewhere takes one of the times and one reply in front, so both sides go down together.
  induction times generalizing patience u a replies with
  | zero =>
    obtain hone | ⟨_, _, _, _, htimes, -⟩ :=
      t.length_arrivals_follow_step w asked 0 patience u a replies
    · exact Nat.le_trans hone (Nat.le_add_left _ _)
    · cases htimes
  | succ times ih =>
    obtain hone | ⟨_, patience', v, a', ⟨⟩, hsome, hlength⟩ :=
      t.length_arrivals_follow_step w asked (times + 1) patience u a replies
    · exact Nat.le_trans hone (Nat.le_add_left _ _)
    · cases replies with
      | nil => cases hsome
      | cons r replies =>
        have hlater := ih patience' v a' replies
        have hsent := sentElsewhere_cons_of_some (r := r) hsome replies
        rw [hlength, List.tail_cons, hsent]
        omega

end

/-! ## Sending -/

/-- Apart from the log, a request that has a destination sets out from there. -/
theorem unlogged_send (t : Transport) (w : World) (q : Request) :
    (t.send w q).unlogged = ofExcept (t.destination w q) >>= fun u =>
      (t.follow w u maxRedirects t.patience u (t.arrival q u)).unlogged >>= fun p =>
        pure ⟨p.1, bodyOf p.2⟩ := by
  rw [send, unlogged_bind, unlogged_log, pure_bind, destination]
  cases t.url? q with
  | none => rfl
  | some u =>
    rw [Option.elim_some]
    by_cases htoken : isAcceptedToken t.token = true
    · by_cases haskable : u.isAskable = true
      · simp only [if_pos htoken, if_pos haskable]
        cases hreached : t.reached w u u with
        | error e =>
          have hnone : (t.follow w u maxRedirects t.patience u (t.arrival q u)).unlogged = fail e :=
            Run.ext (funext (run_unlogged_follow_of_error hreached _ _ _))
          rw [unlogged_bind, hnone]
          rfl
        | ok b =>
          rw [unlogged_bind]
          rfl
      · simp only [if_pos htoken, if_neg haskable]
        rfl
    · simp only [if_neg htoken]
      rfl

/-- The request as it arrives first. -/
def firstArrival (t : Transport) (w : World) (q : Request) (u : Url) : Arrival :=
  { t.arrival q u with
    target := u.targetThrough (w.passage t.options t.roots u = .proxied) }

theorem firstArrival_of_reached {t : Transport} {w : World} {q : Request} {asked u : Url}
    {isProxied : Bool} (h : t.reached w asked u = .ok isProxied) :
    t.firstArrival w q u = { t.arrival q u with target := u.targetThrough isProxied } := by
  have hproxied : decide (w.passage t.options t.roots u = .proxied) = isProxied := by
    unfold reached at h
    cases hpassage : w.passage t.options t.roots u <;> rw [hpassage] at h <;> cases h <;> rfl
  rw [firstArrival, hproxied]

/-- Without a proxy, a request arrives as it was made. -/
theorem firstArrival_of_direct {t : Transport} {w : World} {q : Request} {u : Url}
    (h : w.passage t.options t.roots u = .direct) : t.firstArrival w q u = t.arrival q u :=
  firstArrival_of_reached (reached_of_direct h : t.reached w u u = .ok false)

/-- The response that a reply is read as. -/
def responseOf (t : Transport) (u : Url) (r : Reply) : Except Error Response :=
  (outcomeOf u t.patience r).map fun p => ⟨p.1, bodyOf p.2⟩

section

variable {P : Event → Prop}
  (hlogged : ∀ l : LogLine, l.area = .connector ∨ l.area = .socket → P (.logged l))
include hlogged

/-- Making a connection tells only of the connection. -/
theorem emits_connect {σ : Type} (t : Transport) (w : World) (asked u : Url) :
    (connect t w asked u : Run σ Bool).Emits P := by
  have hlog {l : LogLine} (h : l.area = .connector ∨ l.area = .socket) :
      (emit (.logged l) : Run σ Unit).Emits P :=
    emits_emit (hlogged l h)
  have hlogIf {c : Prop} [Decidable c] {l : LogLine} {f : Unit → Run σ Bool}
      (h : l.area = .connector ∨ l.area = .socket) (hf : (f ()).Emits P) :
      (if c then emit (.logged l) >>= f else f ()).Emits P := by
    split
    · exact (hlog h).bind fun _ => hf
    · exact hf
  refine (hlog (.inl rfl)).bind fun _ => hlogIf (.inr rfl) (hlogIf (.inr rfl) ?_)
  cases w.passage t.options t.roots u with
  | direct | proxied => exact emits_pure _
  | late | refused | untrusted => exact emits_fail _

variable (harrived : ∀ a, P (.arrived a))
include harrived

theorem emits_ask (t : Transport) (w : World) (asked : Url) (patience : Nat) (u : Url)
    (a : Arrival) : (t.ask w asked patience u a).Emits P := by
  have hdeliver (a : Arrival) : (deliver a).Emits P := by
    intro replies e he
    cases replies <;> cases List.mem_singleton.1 he <;> exact harrived a
  refine (emits_connect hlogged t w asked u).bind fun b => (hdeliver _).bind fun r => ?_
  exact emits_ofExcept _

/-- Wherever a client is sent, only lines about connections and arrivals are seen. -/
theorem emits_follow (t : Transport) (w : World) (asked : Url) (times patience : Nat) (u : Url)
    (a : Arrival) : (t.follow w asked times patience u a).Emits P := by
  have hask (patience : Nat) (u : Url) (a : Arrival) :=
    emits_ask hlogged harrived t w asked patience u a
  induction times generalizing patience u a with
  | zero =>
    refine (hask patience u a).bind fun answer => ?_
    split
    · exact emits_fail _
    · exact emits_ofExcept _
  | succ times ih =>
    refine (hask patience u a).bind fun answer => ?_
    cases answer.redirect? with
    | none => exact emits_ofExcept _
    | some v => exact ih _ v _

end

/-- Sending prints nothing. -/
theorem printed_notMem_send (t : Transport) (w : World) (q : Request) (text : String)
    (replies : List Reply) : .printed text ∉ ((t.send w q).run replies).events := by
  have hlog (area : Area) (level : Level) (message : String) (fields : List (String × String)) :
      (log area level message fields : Run (List Reply) Unit).Emits (· ≠ .printed text) :=
    emits_emit nofun
  have hsend : (t.send w q).Emits (· ≠ .printed text) := by
    refine (hlog _ _ _ _).bind fun _ => ?_
    split
    · exact emits_fail _
    · split
      · split
        · have hfollow (u : Url) :
              (t.follow w u maxRedirects t.patience u (t.arrival q u)).Emits (· ≠ .printed text) := by
            refine emits_follow ?_ ?_ t w u maxRedirects t.patience u (t.arrival q u)
            · exact fun _ _ => nofun
            · exact fun _ => nofun
          exact (hfollow _).bind fun _ => (hlog _ _ _ _).bind fun _ => emits_pure _
        · exact emits_fail _
      · exact emits_fail _
  exact fun h => hsend replies _ h rfl

/-! ## Calls of one request -/

/-- What arrives for a request that has a destination. -/
theorem arrivals_send {t : Transport} {w : World} {q : Request} {u : Url}
    (h : t.destination w q = .ok u) (replies : List Reply) :
    Program.arrivals ((t.send w q).run replies).events =
      Program.arrivals
        ((t.follow w u maxRedirects t.patience u (t.arrival q u)).run replies).events := by
  rw [← arrivals_unlogged, unlogged_send, h, ofExcept_ok, pure_bind]
  exact (congrArg Program.arrivals (events_bind_ofExcept _ (fun p => .ok _) replies)).trans
    (arrivals_unlogged _ replies)

section

variable {α : Type} {t : Transport} {w : World} {q : Request} {p : Run (List Reply) α}
  {f : Response → Except Error α}
  (hp : p.unlogged = (t.send w q).unlogged >>= fun r => ofExcept (f r))
include hp

/-- What arrives in the course of a call is what arrives when its request is sent. -/
theorem arrivals_eq (replies : List Reply) :
    Program.arrivals (p.run replies).events =
      Program.arrivals ((t.send w q).run replies).events := by
  rw [← arrivals_unlogged, hp, events_bind_ofExcept, arrivals_unlogged]

/-- A call that only sends a request prints nothing. -/
theorem printed_notMem (text : String) (replies : List Reply) :
    .printed text ∉ (p.run replies).events := by
  intro h
  -- Printing is no line of the log, so it stays visible when the log is left out.
  have hunlogged : .printed text ∈ (p.unlogged.run replies).events := List.mem_filter.2 ⟨h, rfl⟩
  rw [hp, events_bind_ofExcept] at hunlogged
  exact printed_notMem_send t w q text replies (List.mem_filter.1 hunlogged).1

/-- A call fails as its request does that has no destination, and nothing arrives. -/
theorem run_unlogged_of_destination_error {e : Error} (h : t.destination w q = .error e)
    (replies : List Reply) : p.unlogged.run replies = ⟨.error e, [], replies⟩ := by
  rw [hp, unlogged_send, h]
  rfl

theorem result_of_destination_error {e : Error} (h : t.destination w q = .error e)
    (replies : List Reply) : (p.run replies).result = .error e := by
  rw [← result_unlogged, run_unlogged_of_destination_error hp h]

/-- Nothing arrives of a request without a destination. -/
theorem arrivals_of_destination_error {e : Error} (h : t.destination w q = .error e)
    (replies : List Reply) : Program.arrivals (p.run replies).events = [] := by
  rw [← arrivals_unlogged, run_unlogged_of_destination_error hp h]
  rfl

/-- At most one request arrives, and one more for each reply in front that sends the client
elsewhere, up to a bound. -/
theorem length_arrivals_le (replies : List Reply) :
    (Program.arrivals (p.run replies).events).length ≤
      min maxRedirects (sentElsewhere replies) + 1 := by
  cases h : t.destination w q with
  | error e =>
    rw [arrivals_of_destination_error hp h]
    exact Nat.zero_le _
  | ok u =>
    rw [arrivals_eq hp, arrivals_send h]
    exact length_arrivals_follow ..

variable {u : Url} (h : t.destination w q = .ok u)
include h

/-- What a call makes of the reply to a request that arrives, unless it is sent elsewhere. -/
theorem result_of_destination {reply : Reply} (hstays : reply.redirect? = none)
    (rest : List Reply) : (p.run (reply :: rest)).result = responseOf t u reply >>= f := by
  obtain ⟨b, hb⟩ := exists_reached_eq_ok_iff.2 (destination_eq_ok_iff.1 h).2.passage
  rw [← result_unlogged, hp, result_bind_ofExcept, unlogged_send, h, ofExcept_ok, pure_bind,
    responseOf]
  have hhead : ((reply :: rest).headD .exhausted).redirect? = none := hstays
  rw [run_bind, run_unlogged_follow hb maxRedirects t.patience (t.arrival q u) hhead,
    List.headD_cons]
  cases outcomeOf u t.patience reply <;> rfl

/-- The request of a call is the first that arrives. Another one arrives only when a client is sent
elsewhere. -/
theorem arrivals_of_destination (replies : List Reply) :
    ∃ later, Program.arrivals (p.run replies).events = t.firstArrival w q u :: later ∧
      (sentElsewhere replies = 0 → later = []) := by
  obtain ⟨b, hb⟩ := exists_reached_eq_ok_iff.2 (destination_eq_ok_iff.1 h).2.passage
  obtain ⟨later, harrivals, -⟩ :=
    arrivals_follow_of_reached hb maxRedirects t.patience (t.arrival q u) replies
  rw [← firstArrival_of_reached hb] at harrivals
  refine ⟨later, (arrivals_eq hp replies).trans ((arrivals_send h replies).trans harrivals), ?_⟩
  intro hzero
  have hlength := length_arrivals_le hp replies
  rw [arrivals_eq hp, arrivals_send h, harrivals, hzero, List.length_cons, Nat.min_zero] at hlength
  exact List.length_eq_zero_iff.1 (by omega)

end

end Transport

end Credentials.Http
