import Credentials.Proofs.Command.Contact
import Credentials.Proofs.Document.Request

/-!
# What a command writes to the log

The lines that storing a credential writes to the log, step by step: reading arguments and making the
request (`lines_draw`), finding the configuration (`lines_load`), making a transport
(`lines_configure`), sending (`lines_send`), and the call of the client around it
(`lines_write_of_success`, `lines_write_of_failure`). In each of them the lines are given by names,
kinds, numbers, paths, URLs and the status; what is secret does not occur. The lines about connections
are not the program's own (`LogFilter.shows_own_iff`). They tell wherever a client is sent, but between
a request and its response there are no others (`own_lines_follow`).
-/

namespace Credentials

open Run
open Http (Reply Transport)

/-! ## Lines of the program itself -/

/-- With a single rule there is nothing to decide between. -/
theorem LogFilter.shows_singleton (r : LogRule) (l : LogLine) :
    LogFilter.shows [r] l =
      (r.isAboutLines && r.appliesTo l && decide (r.least ≤ l.level.rank)) := by
  unfold shows decisive?
  rw [List.filter_singleton]
  cases r.isAboutLines && r.appliesTo l <;> rfl

/-- The lines that are not the program's own are those about connections. -/
theorem LogFilter.shows_own_iff (l : LogLine) :
    LogFilter.own.shows l = true ↔ l.area ≠ .connector ∧ l.area ≠ .socket := by
  have happlies : LogRule.appliesTo { target := some Area.root } l =
      Area.root.toList.isPrefixOf l.area.path.toList := Bool.and_true _
  have hpath : Area.root.toList.isPrefixOf l.area.path.toList = true ↔
      l.area ≠ .connector ∧ l.area ≠ .socket := by
    cases l.area <;> decide
  rw [← hpath, own, shows_singleton, happlies]
  simp [LogRule.isAboutLines]

/-! ## Lines of runs -/

section

variable {σ α β : Type}

/-- The lines that a run writes to the log. -/
def Run.lines (p : Run σ α) (s : σ) : List LogLine := Program.logLines (p.run s).events

theorem Program.logLines_append (es es' : List Event) :
    logLines (es ++ es') = logLines es ++ logLines es' :=
  List.filterMap_append

theorem Program.logged_mem_of_mem_logLines {es : List Event} {l : LogLine} (h : l ∈ logLines es) :
    .logged l ∈ es := by
  obtain ⟨e, he, hsome⟩ := List.mem_filterMap.1 h
  cases e with
  | logged l' => exact Option.some.inj hsome ▸ he
  | _ => cases hsome

/-- Two steps write their lines one after the other, if the first one goes well. -/
theorem Run.lines_bind_of_ok {p : Run σ α} {f : α → Run σ β} {s : σ} {a : α}
    (h : (p.run s).result = .ok a) :
    (p >>= f).lines s = p.lines s ++ (f a).lines (p.run s).rest := by
  unfold lines
  rw [run_bind_of_ok h, Program.logLines_append]

theorem Run.lines_bind_of_error {p : Run σ α} {f : α → Run σ β} {s : σ} {e : Error}
    (h : (p.run s).result = .error e) : (p >>= f).lines s = p.lines s := by
  unfold lines
  rw [run_bind_of_error h]

/-- What writes nothing leaves the log as it is. -/
theorem Run.lines_bind_of_silent {p : Run σ α} {f : α → Run σ β}
    (hf : ∀ a s, (f a).lines s = []) (s : σ) : (p >>= f).lines s = p.lines s := by
  cases h : (p.run s).result with
  | error e => rw [lines_bind_of_error h]
  | ok a => rw [lines_bind_of_ok h, hf, List.append_nil]

/-- A step that leaves the replies alone writes its lines in front of those of the next. -/
theorem Run.IsLocal.lines_bind {p : Run σ α} (hp : p.IsLocal) {f : α → Run σ β} {s : σ} {a : α}
    (h : (p.run s).result = .ok a) : (p >>= f).lines s = p.lines s ++ (f a).lines s := by
  rw [lines_bind_of_ok h, hp.rest]

theorem Run.lines_pure (a : α) (s : σ) : (pure a : Run σ α).lines s = [] := rfl

theorem Run.lines_ofExcept (x : Except Error α) (s : σ) : (ofExcept x).lines s = [] := by
  cases x <;> rfl

theorem Run.lines_log_bind (area : Area) (level : Level) (message : String)
    (fields : List (String × String)) (f : Unit → Run σ β) (s : σ) :
    (log area level message fields >>= f).lines s =
      ⟨area, level, message, fields⟩ :: (f ()).lines s := rfl

theorem Run.result_log_bind (area : Area) (level : Level) (message : String)
    (fields : List (String × String)) (f : Unit → Run σ β) (s : σ) :
    ((log area level message fields >>= f).run s).result = ((f ()).run s).result := rfl

end

/-! ## Making the request -/

def Request.builtLine (name : Name) (kind : Kind) (overwrite : Bool) (grants : Nat) : LogLine :=
  ⟨.requests, .debug, "credential request built",
    [("name", name.text), ("kind", kind.tag), ("overwrite", boolText overwrite),
      ("permissions", toString grants)]⟩

/-- Files that can be read are told of by their paths, in order, and not by what they hold. -/
theorem Fields.logLines_readings {w : World} {arguments ts : List (Option String)}
    (h : arguments.mapM (textOf w) = .ok ts) :
    Program.logLines (readings w arguments) = (arguments.filterMap filePath?).map fileLine := by
  rw [mapM_eq_ok_iff] at h
  induction h with
  | nil => rfl
  | @cons a t rest ts ha _ ih =>
    have hok : (textOf w a).isOk = true := by
      rw [ha]
      rfl
    rw [readings, if_pos hok, Program.logLines_append, ih, reading]
    cases hfile : filePath? a with
    | none => rw [List.filterMap_cons_none hfile]; rfl
    | some path => rw [List.filterMap_cons_some hfile]; rfl

/-- A request that is built is told of by its name, its kind and how many grants it has. -/
theorem Draft.lines_make {σ : Type} {d : Draft} {r : Request} (h : d.build = .ok r) (s : σ) :
    d.make.lines s = [Request.builtLine r.name r.kind r.overwrite r.permissions.length] := by
  rw [make, h]
  rfl

/-- The value that is made of arguments is of the kind that was asked for. -/
theorem Fields.kind_of_valueOf {kind : Kind} {ts : List (Option String)} {v : Value}
    (h : valueOf kind ts = .ok v) : v.kind = kind := by
  cases kind with
  | json =>
    obtain ⟨o, -, rfl⟩ := map_eq_ok_iff.1 h
    rfl
  | _ =>
    cases h
    rfl

section

variable {w : World} {raw : String} {kind : Kind} {overwrite : Bool} {fields : Fields}
  {grants : List Permission} {replies : List Reply} {r : Request}
  (h : ((CommandLine.draw w raw kind overwrite fields grants).run replies).result = .ok r)
include h

/-- The request has the name and the kind that are asked for, and what else the arguments say. -/
theorem CommandLine.parts_of_draw :
    nameOf raw = .ok r.name ∧ r.kind = kind ∧ r.overwrite = overwrite ∧ r.permissions = grants := by
  unfold draw at h
  obtain ⟨name, hname, h⟩ := result_bind_eq_ok_iff.1 h
  obtain ⟨value, hvalue, hmake⟩ := result_bind_eq_ok_iff.1 h
  rw [result_ofExcept] at hname
  rw [Fields.run_makeValue] at hvalue
  obtain ⟨ts, -, hvalue⟩ := bind_eq_ok_iff.1 hvalue
  rw [Draft.result_make, Draft.build_eq_ok_iff, Draft.mk.injEq, Option.some.injEq,
    Option.some.injEq] at hmake
  obtain ⟨rfl, ho, rfl, hp⟩ := hmake
  exact ⟨hname, Fields.kind_of_valueOf hvalue, ho.symm, hp.symm⟩

/-- Making a request tells of the files that are read and of the request. -/
theorem CommandLine.lines_draw :
    (draw w raw kind overwrite fields grants).lines replies =
      (fields.files kind).map Fields.fileLine ++
        [Request.builtLine r.name kind overwrite grants.length] := by
  obtain ⟨-, hkind, hoverwrite, hgrants⟩ := parts_of_draw h
  have hname := isLocal_ofExcept (σ := List Reply) (nameOf raw)
  have hvalue := Fields.isLocal_makeValue (σ := List Reply) w kind fields
  unfold draw at h ⊢
  obtain ⟨name, hn, h⟩ := hname.result_bind_eq_ok_iff.1 h
  obtain ⟨value, hv, hmake⟩ := hvalue.result_bind_eq_ok_iff.1 h
  rw [Draft.result_make] at hmake
  rw [hname.lines_bind hn, lines_ofExcept, List.nil_append, hvalue.lines_bind hv,
    Draft.lines_make hmake, hkind, hoverwrite, hgrants]
  rw [Fields.run_makeValue] at hv
  obtain ⟨ts, hts, -⟩ := bind_eq_ok_iff.1 hv
  rw [lines, Fields.run_makeValue, Fields.logLines_readings hts, Fields.files]

end

/-! ## Finding the configuration -/

/-- The lines about the configuration that is stored under a path, which gives a URL. -/
def Config.fileLines (path url : String) : List LogLine :=
  [⟨.configuration, .debug, "loading config", [("path", path)]⟩,
    ⟨.configuration, .debug, "config loaded", [("url", url)]⟩]

def Config.overriddenLine : LogLine :=
  ⟨.configuration, .debug, "server url overridden from environment", []⟩

namespace Config

variable {σ : Type} {w : World} {explicit : Option String} {s : σ}

/-- Reading a configuration tells of its path and its URL, and of none of its secrets. -/
theorem lines_ofFile {path : String} {d : Config}
    (h : ((ofFile w path : Run σ Config).run s).result = .ok d) :
    (ofFile w path : Run σ Config).lines s = fileLines path d.url := by
  unfold ofFile at h ⊢
  have hlocal := w.isLocal_readText (σ := σ) path
  rw [result_log_bind, hlocal.result_bind_eq_ok_iff] at h
  obtain ⟨text, htext, h⟩ := h
  rw [lines_log_bind, hlocal.lines_bind htext]
  cases text with
  | error e => cases h
  | ok text =>
    simp only at h ⊢
    cases hread : (Toml.read? text).bind ofToml? with
    | none =>
      rw [hread] at h
      cases h
    | some c =>
      rw [hread] at h
      cases h
      rfl

theorem lines_stored {d : Config} (h : ((stored w explicit).run s).result = .ok d) :
    (stored w explicit).lines s = (locate w explicit).elim [] fun path => fileLines path d.url := by
  unfold stored at h ⊢
  cases hpath : locate w explicit with
  | some path =>
    simp only [hpath] at h
    exact lines_ofFile h
  | none =>
    simp only [Option.elim_none]
    split <;> rfl

theorem lines_announce (w : World) (s : σ) :
    (announce w).lines s = if (w.environment urlVariable).isSome then [overriddenLine] else [] := by
  unfold announce
  split <;> rfl

/-- Finding the configuration tells of its file and of whether the environment overrides its URL. -/
theorem lines_load {d : Config} (h : ((stored w explicit).run s).result = .ok d) :
    (load w explicit).lines s =
      ((locate w explicit).elim [] fun path => fileLines path d.url) ++
        if (w.environment urlVariable).isSome then [overriddenLine] else [] := by
  rw [load_eq, (isLocal_stored w explicit).lines_bind h, lines_stored h,
    (isLocal_announce w).lines_bind (result_announce w s), lines_announce, lines_ofExcept,
    List.append_nil]

end Config

/-! ## Making a transport -/

namespace Http.Transport

def certificateLine (path : String) : LogLine :=
  ⟨.transport, .debug, "added CA certificate", [("path", path)]⟩

def configuredLine (base : String) (o : Options) : LogLine :=
  ⟨.transport, .info, "configured http transport",
    [("base_url", base), ("custom_certs", boolText o.usesCustomCertificates),
      ("connection_timeout", timeoutText o.connectionTimeout),
      ("read_timeout", timeoutText o.readTimeout)]⟩

variable {σ : Type} {w : World}

/-- Files of certificates are told of by their paths. -/
theorem lines_readCertificates {paths : List String} {roots : List Content} {s : σ}
    (h : ((readCertificates w paths).run s).result = .ok roots) :
    (readCertificates w paths).lines s = paths.map certificateLine := by
  induction paths generalizing roots with
  | nil => rfl
  | cons path paths ih =>
    unfold readCertificates at h ⊢
    obtain ⟨x, hx, h⟩ := (w.isLocal_readContent path).result_bind_eq_ok_iff.1 h
    rw [(w.isLocal_readContent path).lines_bind hx]
    cases x with
    | error e => cases h
    | ok c =>
      simp only at h ⊢
      have hlocal := isLocal_readCertificates (σ := σ) w paths
      rw [result_log_bind] at h
      obtain ⟨others, hothers, -⟩ := hlocal.result_bind_eq_ok_iff.1 h
      rw [lines_log_bind, hlocal.lines_bind hothers, ih hothers, lines_pure, List.append_nil]
      rfl

/-- Making a transport tells of the certificates, the URL and the options. -/
theorem lines_configure {base : String} {o : Options} {t : Transport} {s : σ}
    (h : ((configure w base o).run s).result = .ok t) :
    (configure w base o).lines s =
        (o.certificateFiles.getD []).map certificateLine ++ [configuredLine (trimSlashes base) o] ∧
      ∃ roots, t = ⟨trimSlashes base, none, o, roots⟩ := by
  unfold configure at h ⊢
  simp only at h ⊢
  split at h
  · rename_i hscheme
    rw [if_pos hscheme]
    obtain ⟨roots, hroots, h⟩ := result_bind_eq_ok_iff.1 h
    have hlocal := isLocal_readCertificates (σ := σ) w (o.certificateFiles.getD [])
    rw [hlocal.lines_bind hroots, lines_readCertificates hroots]
    split at h
    · rename_i htrusted
      rw [if_pos htrusted]
      cases h
      exact ⟨rfl, roots, rfl⟩
    · cases h
  · cases h

end Http.Transport

/-- Connecting tells of the configuration and of the transport. -/
theorem CommandLine.lines_connect {w : World} {config : Option String} {replies : List Reply}
    {t : Transport} (h : ((connect w config).run replies).result = .ok t) :
    ∃ c d, ((Config.load w config).run replies).result = .ok c ∧
      ((Config.stored w config).run replies).result = .ok d ∧
      (connect w config).lines replies =
        ((Config.locate w config).elim [] fun path => Config.fileLines path d.url) ++
        (if (w.environment Config.urlVariable).isSome then [Config.overriddenLine] else []) ++
        (c.options.certificateFiles.getD []).map Http.Transport.certificateLine ++
        [Http.Transport.configuredLine (Http.Transport.trimSlashes c.url) c.options] ∧
      t.base = Http.Transport.trimSlashes c.url := by
  have hload := Config.isLocal_load (σ := List Reply) w config
  unfold connect at h ⊢
  obtain ⟨c, hc, h⟩ := hload.result_bind_eq_ok_iff.1 h
  have hconfigure := Http.Transport.isLocal_configure (σ := List Reply) w c.url c.options
  obtain ⟨t', ht', h⟩ := hconfigure.result_bind_eq_ok_iff.1 h
  obtain ⟨d, hd, -, -⟩ := Config.result_load_eq_ok_iff.1 hc
  obtain ⟨hlines, roots, rfl⟩ := Http.Transport.lines_configure ht'
  cases h
  refine ⟨c, d, hc, hd, ?_, rfl⟩
  rw [hload.lines_bind hc, hconfigure.lines_bind ht', lines_pure, List.append_nil,
    Config.lines_load hd, hlines]
  simp only [List.append_assoc]

namespace Http.Transport

variable {σ : Type} {w : World}

/-! ## Sending -/

/-- The lines of the program itself about a request that is sent and answered with a status. -/
def exchangeLines (base : String) (method : Method) (path : String) (status : Nat) : List LogLine :=
  [⟨.transport, .trace, "sending request", [("method", method.text), ("url", base ++ path)]⟩,
    ⟨.transport, .debug, "response received",
      [("method", method.text), ("path", path), ("status", toString status)]⟩]

/-- However often a client is sent elsewhere, the program itself says nothing about it. -/
theorem own_lines_follow (t : Transport) (w : World) (asked : Url) (times patience : Nat) (u : Url)
    (a : Arrival) (replies : List Reply) :
    ((t.follow w asked times patience u a).lines replies).filter LogFilter.own.shows = [] := by
  have hforeign : (t.follow w asked times patience u a).Emits
      fun e => ∀ l, e = .logged l → LogFilter.own.shows l = false := by
    refine emits_follow ?_ ?_ t w asked times patience u a
    · rintro l harea _ ⟨rfl⟩
      rw [← Bool.not_eq_true, LogFilter.shows_own_iff]
      rintro ⟨hconnector, hsocket⟩
      exact harea.elim hconnector hsocket
    · exact fun a l => nofun
  rw [List.filter_eq_nil_iff]
  intro l hl
  rw [hforeign replies _ (Program.logged_mem_of_mem_logLines hl) l rfl]
  exact Bool.false_ne_true

/-- Sending a request that is answered tells of the request and of the status. -/
theorem own_lines_send {t : Transport} {q : Request} {x : Response} {replies : List Reply}
    (h : ((t.send w q).run replies).result = .ok x) :
    ((t.send w q).lines replies).filter LogFilter.own.shows =
      exchangeLines t.base q.method q.path x.status := by
  -- What is answered has a destination, which rules out every way to fail before the reply.
  have hdestination : ∃ u, t.destination w q = .ok u := by
    rw [← result_unlogged, unlogged_send] at h
    obtain ⟨u, hu, -⟩ := result_bind_eq_ok_iff.1 h
    exact ⟨u, by rwa [result_ofExcept] at hu⟩
  obtain ⟨u, hu⟩ := hdestination
  obtain ⟨hurl, hopens⟩ := destination_eq_ok_iff.1 hu
  unfold send at h ⊢
  rw [result_log_bind] at h
  rw [lines_log_bind]
  simp only [hurl, hopens.token, hopens.askable, if_true] at h ⊢
  obtain ⟨p, hp, h⟩ := result_bind_eq_ok_iff.1 h
  cases h
  have hown {l : LogLine} (hl : l.area = .transport) : LogFilter.own.shows l = true :=
    (LogFilter.shows_own_iff l).2 (by simp [hl])
  rw [lines_bind_of_ok hp, lines_log_bind, lines_pure, List.filter_cons_of_pos (hown rfl),
    List.filter_append, own_lines_follow, List.nil_append, List.filter_cons_of_pos (hown rfl)]
  rfl

end Http.Transport

/-! ## Calling -/

/-- The lines about a document that is written and a call that is made. -/
def Client.callLines (name : Name) (kind : Kind) : List LogLine :=
  [⟨.documents, .debug, "encoded credential request", [("name", name.text), ("kind", kind.tag)]⟩,
    ⟨.client, .debug, "calling credhub", [("method", "PUT"), ("path", "/api/v1/data")]⟩]

def Client.failedLine (status : Nat) : LogLine :=
  ⟨.client, .warn, "credhub request failed",
    [("method", "PUT"), ("path", "/api/v1/data"), ("status", toString status)]⟩

def Details.decodedLine (id : String) (name : Name) (kind : Kind) : LogLine :=
  ⟨.documents, .debug, "decoded credential",
    [("id", id), ("name", name.text), ("kind", kind.tag)]⟩

namespace Client

variable {σ : Type} {send : Sender σ} {r : Request} {x : Http.Response} {s : σ}
  (h : ((send (storeRequest r.toJson)).run s).result = .ok x)
include h

/-- A call with success tells of the credential that is read. -/
theorem lines_write_of_success {d : Details} (hsuccess : x.isSuccess = true)
    (hd : accepted x >>= Details.ofJson (some r.kind) = .ok d) :
    (write send r).lines s =
      callLines r.name r.kind ++ (send (storeRequest r.toJson)).lines s ++
        [Details.decodedLine d.id d.name r.kind] := by
  obtain ⟨j, hj, hd⟩ := bind_eq_ok_iff.1 hd
  obtain ⟨o, -, hdescribes⟩ := Details.ofJson_eq_ok_iff.1 hd
  have hkind : r.kind = d.kind := hdescribes.expected r.kind rfl
  -- A body that is accepted is there, so the one that is read is the one that was sent.
  have hbody : x.body = some j := by
    rw [accepted, succeeded, if_pos hsuccess, ok_bind] at hj
    cases hx : x.body with
    | none =>
      rw [hx] at hj
      cases hj
    | some k =>
      rw [hx] at hj
      exact congrArg some (Except.ok.inj hj)
  simp only [write, Request.encode, fetch, exchange, bind_assoc, pure_bind]
  rw [lines_log_bind, lines_log_bind, lines_bind_of_ok h, if_pos hsuccess, pure_bind, hbody]
  simp only [pure_bind, Details.decode, hd]
  simp only [callLines, hkind, List.cons_append, List.nil_append]
  rfl

/-- A call without success tells of the status. -/
theorem lines_write_of_failure (hfailure : x.isSuccess = false) :
    (write send r).lines s =
      callLines r.name r.kind ++ (send (storeRequest r.toJson)).lines s ++
        [failedLine x.status] := by
  simp only [write, Request.encode, fetch, exchange, bind_assoc, pure_bind]
  rw [lines_log_bind, lines_log_bind, lines_bind_of_ok h, if_neg (by simp [hfailure])]
  simp only [bind_assoc, callLines, List.cons_append, List.nil_append]
  rfl

end Client

end Credentials
