import Credentials.Proofs.Client.Conversation
import Credentials.Proofs.Command.Arguments
import Credentials.Proofs.Config.Load
import Credentials.Proofs.Http.Transport
import Credentials.Proofs.Name

/-!
# Contact with the server

A command prepares locally, then has one conversation with the server and prints last
(`execute_eq`). So one request arrives at most, with one more for each reply in front that sends the
client elsewhere, and a failure leaves standard output empty (`converses_inquire`); when the
preparation fails nothing arrives (`Invocation.IsStopped`).
-/

namespace Credentials

open Run
open Http (Reply Transport)

/-! ## One conversation -/

/-- At most one request arrives, with one more for each reply in front that sends the client elsewhere,
up to a bound. Nothing is printed. -/
def Run.Converses {α : Type} (p : Run (List Reply) α) : Prop :=
  ∀ replies, (Program.arrivals (p.run replies).events).length ≤
      min Transport.maxRedirects (Http.sentElsewhere replies) + 1 ∧
    ∀ text, .printed text ∉ (p.run replies).events

section

variable {σ α β : Type}

theorem Program.arrivals_append (es es' : List Event) :
    arrivals (es ++ es') = arrivals es ++ arrivals es' :=
  List.filterMap_append

/-- Without an event that prints, standard output is empty. -/
theorem Program.printed_eq_empty {es : List Event} (h : ∀ text, .printed text ∉ es) :
    printed es = "" := by
  unfold printed
  rw [List.filterMap_eq_nil_iff.2]
  · rfl
  · intro ev hev
    cases ev with
    | printed text => exact (h text hev).elim
    | _ => rfl

/-- If nothing arrives behind what is done locally, nothing arrives at all. -/
theorem Run.IsLocal.arrivals_bind {p : Run σ α} {f : α → Run σ β} (hp : p.IsLocal) {s : σ}
    (hf : ∀ a, Program.arrivals ((f a).run s).events = []) :
    Program.arrivals ((p >>= f).run s).events = [] := by
  cases h : (p.run s).result with
  | error e =>
    rw [hp.run_bind_error h]
    exact hp.arrivals s
  | ok a => rw [hp.run_bind h, Program.arrivals_append, hp.arrivals, hf, List.append_nil]

end

section

variable {α β : Type}

/-- What is done locally is a conversation without a word. -/
theorem Run.IsLocal.converses {p : Run (List Reply) α} (h : p.IsLocal) : p.Converses := by
  intro replies
  rw [h.arrivals]
  exact ⟨Nat.zero_le _, fun text hmem => h.isLocal_of_mem hmem⟩

/-- What is done locally leaves the replies to the conversation behind it. -/
theorem Run.IsLocal.bind_converses {p : Run (List Reply) α} {f : α → Run (List Reply) β}
    (hp : p.IsLocal) (hf : ∀ a, (f a).Converses) : (p >>= f).Converses := by
  intro replies
  cases h : (p.run replies).result with
  | error e =>
    rw [hp.run_bind_error h]
    exact hp.converses replies
  | ok a =>
    rw [hp.run_bind h, Program.arrivals_append, hp.arrivals, List.nil_append]
    refine ⟨(hf a replies).1, ?_⟩
    intro text hmem
    rcases List.mem_append.1 hmem with hmem | hmem
    · exact hp.isLocal_of_mem hmem
    · exact (hf a replies).2 text hmem

/-- A call over a transport is one conversation. -/
theorem Http.Transport.converses {t : Transport} {w : World} {q : Http.Request}
    {p : Run (List Reply) α} {f : Http.Response → Except Error α}
    (hp : p.unlogged = (t.send w q).unlogged >>= fun r => ofExcept (f r)) : p.Converses :=
  fun replies => ⟨length_arrivals_le hp replies, fun text => printed_notMem hp text replies⟩

end

/-! ## Preparation -/

theorem Http.Transport.isLocal_readCertificates {σ : Type} (w : World) (paths : List String) :
    (readCertificates w paths : Run σ (List Content)).IsLocal := by
  induction paths with
  | nil => exact isLocal_pure []
  | cons path paths ih =>
    refine (w.isLocal_readContent path).bind fun x => ?_
    cases x with
    | error e => exact isLocal_fail _
    | ok c => exact (isLocal_log _ _ _ _).bind fun _ => ih.bind fun _ => isLocal_pure _

/-- Making a transport asks no server. -/
theorem Http.Transport.isLocal_configure {σ : Type} (w : World) (base : String) (o : Options) :
    (configure w base o : Run σ Transport).IsLocal := by
  unfold configure
  simp only
  split
  · refine (isLocal_readCertificates w _).bind fun roots => ?_
    split
    · exact (isLocal_log _ _ _ _).bind fun _ => isLocal_pure _
    · exact isLocal_fail _
  · exact isLocal_fail _

namespace CommandLine

/-- Finding the configuration and making a transport of it asks no server. -/
theorem isLocal_connect (w : World) (config : Option String) : (connect w config).IsLocal :=
  (Config.isLocal_load w config).bind fun c =>
    (Http.Transport.isLocal_configure w c.url c.options).bind fun _ => isLocal_pure _

/-- Making a request to store a credential asks no server. -/
theorem isLocal_draw (w : World) (raw : String) (kind : Kind) (overwrite : Bool) (fields : Fields)
    (grants : List Permission) : (draw w raw kind overwrite fields grants).IsLocal :=
  (isLocal_ofExcept _).bind fun _ => (Fields.isLocal_makeValue w kind fields).bind fun _ =>
    Draft.isLocal_make _

/-! ## Commands -/

/-- Everything that a command does but printing, which results in the text to be printed. -/
def Invocation.inquire (w : World) (i : Invocation) : Run (List Reply) String :=
  match i.command with
  | .get (.id id) _ =>
    connect w i.config >>= fun t => do
      let d ← Client.getById (t.send w) id none
      return d.toJson.pretty ++ "\n"
  | .get (.name raw) latest =>
    connect w i.config >>= fun t => .ofExcept (nameOf raw) >>= fun name => do
      let vs ← Client.getByName (t.send w) name none
      let newest := if latest then vs.latest?.map Details.toJson else none
      return (newest.getD vs.toJson).pretty ++ "\n"
  | .set raw kind overwrite fields grants =>
    draw w raw kind overwrite fields grants >>= fun r => connect w i.config >>= fun t => do
      let d ← Client.write (t.send w) r
      return d.toJson.pretty ++ "\n"
  | .delete raw =>
    .ofExcept (nameOf raw) >>= fun name => connect w i.config >>= fun t => do
      Client.deleteByName (t.send w) name
      return Terminal.success (Terminal.areMarksColored w) ("deleted " ++ name.text) ++ "\n"
  | .completions shell => return w.completions shell.word

/-- A command prints last, and only if all the rest went well. -/
theorem Invocation.execute_eq (w : World) (i : Invocation) :
    i.execute w = i.inquire w >>= fun text => .emit (.printed text) := by
  unfold execute inquire
  cases i.command with
  | get which latest =>
    cases which with
    | id id => simp only [get, printDocument, bind_assoc, pure_bind]
    | name raw =>
      simp only [get, printDocument, bind_assoc, pure_bind]
      refine congrArg _ (funext fun t => congrArg _ (funext fun name => ?_))
      refine congrArg _ (funext fun vs => ?_)
      cases vs.latest? <;> cases latest <;> rfl
  | set raw kind overwrite fields grants =>
    simp only [set, printDocument, bind_assoc, pure_bind]
  | delete raw => simp only [delete, bind_assoc, pure_bind]
  | completions shell => rfl

/-- Every command is one conversation with the server. -/
theorem Invocation.converses_inquire (w : World) (i : Invocation) : (i.inquire w).Converses := by
  unfold inquire
  cases i.command with
  | get which latest =>
    cases which with
    | id id =>
      refine (isLocal_connect w _).bind_converses fun t => ?_
      cases hid : Client.isAcceptedId id with
      | false =>
        rw [Client.getById_of_not_isAcceptedId _ hid]
        exact ((isLocal_fail _).bind fun _ => isLocal_pure _).converses
      | true =>
        exact Http.Transport.converses
          (Client.unlogged_bind_pure (Client.unlogged_getById (t.send w) hid none) _)
    | name raw =>
      refine (isLocal_connect w _).bind_converses fun t => ?_
      refine (isLocal_ofExcept _).bind_converses fun name => ?_
      exact Http.Transport.converses
        (Client.unlogged_bind_pure (Client.unlogged_getByName (t.send w) name none) _)
  | set raw kind overwrite fields grants =>
    refine (isLocal_draw w raw kind overwrite fields grants).bind_converses fun r => ?_
    refine (isLocal_connect w _).bind_converses fun t => ?_
    exact Http.Transport.converses
      (Client.unlogged_bind_pure (Client.unlogged_write (t.send w) r) _)
  | delete raw =>
    refine (isLocal_ofExcept _).bind_converses fun name => ?_
    refine (isLocal_connect w _).bind_converses fun t => ?_
    exact Http.Transport.converses
      (Client.unlogged_bind_pure (Client.unlogged_deleteByName (t.send w) name) fun _ => _)
  | completions shell => exact (isLocal_pure _).converses

/-! ## Commands that stop before contact -/

/-- The name that a command is about. -/
def Command.name? : Command → Option String
  | .get (.name raw) _ => some raw
  | .set raw _ _ _ _ => some raw
  | .delete raw => some raw
  | _ => none

/-- The configuration cannot be loaded, no transport can be made from it, or what the command is
about cannot be the name or the identifier of a credential. -/
inductive Invocation.IsStopped (w : World) (i : Invocation) (replies : List Reply) : Prop
  | notLoaded {e : Error} (h : ((Config.load w i.config).run replies).result = .error e)
  | notConfigured {c : Config} {e : Error}
      (hload : ((Config.load w i.config).run replies).result = .ok c)
      (h : ((Transport.configure w c.url c.options).run replies).result = .error e)
  | misnamed {raw : String} (hname : i.command.name? = some raw) (h : ∀ c ∈ raw.toList, c = '/')
  | misidentified {id : String} {latest : Bool} (hid : i.command = .get (.id id) latest)
      (h : Client.isAcceptedId id = false)

/-- A name is refused if there is nothing in it but separators. -/
theorem nameOf_eq_error_iff {raw : String} {e : Error} :
    nameOf raw = .error e ↔ (∀ c ∈ raw.toList, c = '/') ∧ e = .validation .emptyName := by
  have hnone : Name.ofString? raw = none ↔ ∀ c ∈ raw.toList, c = '/' := Name.ofString?_eq_none_iff
  unfold nameOf
  cases h : Name.ofString? raw with
  | none =>
    refine ⟨fun he => ⟨hnone.1 h, (Except.error.inj he).symm⟩, ?_⟩
    rintro ⟨-, rfl⟩
    rfl
  | some n =>
    refine iff_of_false nofun fun hall => ?_
    rw [hnone.2 hall.1] at h
    cases h

section

variable {w : World} {i : Invocation} {replies : List Reply}

theorem arrivals_connect_bind {α : Type} {config : Option String} {e : Error}
    (h : ((connect w config).run replies).result = .error e) (f : Transport → Run (List Reply) α) :
    Program.arrivals ((connect w config >>= f).run replies).events = [] := by
  rw [(isLocal_connect w config).run_bind_error h]
  exact (isLocal_connect w config).arrivals replies

/-- Without a transport nothing arrives. -/
theorem Invocation.arrivals_of_connect_error {e : Error}
    (h : ((connect w i.config).run replies).result = .error e) :
    Program.arrivals ((i.inquire w).run replies).events = [] := by
  unfold inquire
  cases i.command with
  | get which latest => cases which <;> exact arrivals_connect_bind h _
  | set raw kind overwrite fields grants =>
    refine (isLocal_draw w raw kind overwrite fields grants).arrivals_bind fun r => ?_
    exact arrivals_connect_bind h _
  | delete raw =>
    refine (isLocal_ofExcept _).arrivals_bind fun name => ?_
    exact arrivals_connect_bind h _
  | completions shell => rfl

/-- A command about a name that is none has nothing arrive, whether the name is looked at before the
configuration or after it. -/
theorem Invocation.arrivals_of_misnamed {raw : String} (hname : i.command.name? = some raw)
    (h : ∀ c ∈ raw.toList, c = '/') :
    Program.arrivals ((i.inquire w).run replies).events = [] := by
  have herror : nameOf raw = .error (.validation .emptyName) := nameOf_eq_error_iff.2 ⟨h, rfl⟩
  unfold inquire
  cases hcommand : i.command with
  | get which latest =>
    rw [hcommand] at hname
    cases which with
    | id id => cases hname
    | name raw =>
      cases hname
      refine (isLocal_connect w _).arrivals_bind fun t => ?_
      rw [herror]
      rfl
  | set raw kind overwrite fields grants =>
    rw [hcommand] at hname
    cases hname
    simp only [draw, herror]
    rfl
  | delete raw =>
    rw [hcommand] at hname
    cases hname
    simp only [herror]
    rfl
  | completions shell =>
    rw [hcommand] at hname
    cases hname

/-- A command that is stopped has nothing arrive, whatever stops it. -/
theorem Invocation.IsStopped.arrivals_inquire (h : i.IsStopped w replies) :
    Program.arrivals ((i.inquire w).run replies).events = [] := by
  cases h with
  | @notLoaded e h =>
    refine Invocation.arrivals_of_connect_error (e := e) ?_
    rw [connect, (Config.isLocal_load w i.config).run_bind_error h]
  | @notConfigured c e hload h =>
    refine Invocation.arrivals_of_connect_error (e := e) ?_
    rw [connect, (Config.isLocal_load w i.config).result_bind hload,
      (Http.Transport.isLocal_configure w c.url c.options).run_bind_error h]
  | misnamed hname h => exact Invocation.arrivals_of_misnamed hname h
  | misidentified hid h =>
    simp only [inquire, hid]
    refine (isLocal_connect w _).arrivals_bind fun t => ?_
    rw [Client.getById_of_not_isAcceptedId _ h]
    rfl

/-- Printing adds nothing to what arrives. -/
theorem Invocation.arrivals_execute (w : World) (i : Invocation) (replies : List Reply) :
    Program.arrivals ((i.execute w).run replies).events =
      Program.arrivals ((i.inquire w).run replies).events := by
  rw [i.execute_eq, run_bind]
  cases ((i.inquire w).run replies).result with
  | error e => rfl
  | ok text =>
    rw [Program.arrivals_append]
    exact List.append_nil _

/-- Nothing is printed on a failure. -/
theorem Invocation.printed_execute_of_error {e : Error}
    (h : ((i.execute w).run replies).result = .error e) :
    Program.printed ((i.execute w).run replies).events = "" := by
  rw [i.execute_eq, result_bind_eq_error_iff] at h
  rcases h with h | ⟨text, -, h⟩
  · rw [i.execute_eq, run_bind_of_error h]
    exact Program.printed_eq_empty (i.converses_inquire w replies).2
  · cases h

end

end CommandLine

end Credentials
