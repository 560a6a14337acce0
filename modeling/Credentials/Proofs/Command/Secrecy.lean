import Credentials.Proofs.Command.Journal
import Credentials.Proofs.Http.Storage

/-!
# Secrets do not reach the log

What storing a credential writes to the log is a function of what is public about it
(`Storing.Public.lines`), of the status of the answer, and of the identifier and the name in its body.
The log is that of the program itself; what is written about connections is not a part of it. So two uses of the command that agree on these write the same log, whatever their secrets, tokens,
grants and bodies are. Main statement: `log_shows_what_is_public`. Where the URL comes from is public
too: an environment that repeats the URL of the configuration file leaves a line of its own
(`source_of_url_shows`).
-/

namespace Credentials

open Run
open Http (Reply Transport Response)

/-- A use of the command that stores a credential. -/
structure Storing where
  world : World
  /-- The path of the configuration file that is asked for. -/
  config : Option String
  raw : String
  kind : Kind
  overwrite : Bool
  fields : Fields
  grants : List Permission
  replies : List Reply

namespace Storing

/-- What the log may show of a use, apart from the answer. -/
structure Public where
  name : Name
  kind : Kind
  overwrite : Bool
  grantCount : Nat
  /-- The files that arguments name. -/
  files : List String
  /-- The configuration file. -/
  configFile : Option String
  url : String
  options : Options
  /-- The URL in the configuration file. -/
  storedUrl : String
  /-- Whether the environment sets the URL. -/
  isOverridden : Bool

/-- What the program itself writes to the log in a use, at all levels. -/
def log (a : Storing) : List LogLine :=
  (((⟨false, a.config, .set a.raw a.kind a.overwrite a.fields a.grants⟩ :
    CommandLine.Invocation).execute a.world).lines a.replies).filter LogFilter.own.shows

/-- The answer of the server. -/
def response (a : Storing) : Except Error Response :=
  ((CommandLine.draw a.world a.raw a.kind a.overwrite a.fields a.grants >>= fun r =>
    CommandLine.connect a.world a.config >>= fun t =>
      t.send a.world (Client.storeRequest r.toJson)).run a.replies).result

/-- The credential in the body of an answer. -/
def decoded (a : Storing) (x : Response) : Except Error Details :=
  Client.accepted x >>= Details.ofJson (some a.kind)

/-- What is public about a use. -/
structure Shows (a : Storing) (p : Public) : Prop where
  name : Name.ofString? a.raw = some p.name
  kind : a.kind = p.kind
  overwrite : a.overwrite = p.overwrite
  grantCount : a.grants.length = p.grantCount
  files : a.fields.files a.kind = p.files
  configFile : Config.locate a.world a.config = p.configFile
  loaded : ∃ c, ((Config.load a.world a.config).run a.replies).result = .ok c ∧
    c.url = p.url ∧ c.options = p.options
  stored : ∃ d, ((Config.stored a.world a.config).run a.replies).result = .ok d ∧
    d.url = p.storedUrl
  isOverridden : (a.world.environment Config.urlVariable).isSome = p.isOverridden

/-- The servers answer with the same status and, in case of success, with credentials of the same
identifier and name. -/
def AnsweredAlike (a b : Storing) : Prop :=
  ∃ x y, a.response = .ok x ∧ b.response = .ok y ∧ x.status = y.status ∧
    (x.isSuccess = true →
      ∃ d e, a.decoded x = .ok d ∧ b.decoded y = .ok e ∧ d.id = e.id ∧ d.name = e.name)

/-! ## The log as a function -/

namespace Public

variable (p : Public)

/-- What is written while the request is made. -/
def drawLines : List LogLine :=
  p.files.map Fields.fileLine ++ [Request.builtLine p.name p.kind p.overwrite p.grantCount]

/-- What is written until there is a transport. -/
def connectLines : List LogLine :=
  (p.configFile.elim [] fun path => Config.fileLines path p.storedUrl) ++
    (if p.isOverridden then [Config.overriddenLine] else []) ++
    (p.options.certificateFiles.getD []).map Transport.certificateLine ++
    [Transport.configuredLine (Transport.trimSlashes p.url) p.options]

/-- What is written up to an answer with a status. -/
def lines (status : Nat) : List LogLine :=
  p.drawLines ++ p.connectLines ++ Client.callLines p.name p.kind ++
    Transport.exchangeLines (Transport.trimSlashes p.url) .put Client.dataPath status

end Public

section

variable {a : Storing} {p : Public} {r : Request} {t : Transport} {x : Response}

/-- An answer comes from a transport to which a request is given. -/
theorem exists_of_response (hx : a.response = .ok x) :
    ∃ r t,
      ((CommandLine.draw a.world a.raw a.kind a.overwrite a.fields a.grants).run
        a.replies).result = .ok r ∧
      ((CommandLine.connect a.world a.config).run a.replies).result = .ok t ∧
      ((t.send a.world (Client.storeRequest r.toJson)).run a.replies).result = .ok x := by
  unfold response at hx
  obtain ⟨r, hr, hx⟩ := (CommandLine.isLocal_draw ..).result_bind_eq_ok_iff.1 hx
  obtain ⟨t, ht, hx⟩ := (CommandLine.isLocal_connect ..).result_bind_eq_ok_iff.1 hx
  exact ⟨r, t, hr, ht, hx⟩

/-- While the request is made, only what is public is told. -/
theorem lines_draw_of_shows (ha : a.Shows p)
    (hr : ((CommandLine.draw a.world a.raw a.kind a.overwrite a.fields a.grants).run
      a.replies).result = .ok r) :
    (CommandLine.draw a.world a.raw a.kind a.overwrite a.fields a.grants).lines a.replies =
        p.drawLines ∧
      r.name = p.name ∧ r.kind = p.kind := by
  obtain ⟨hname, hkind, -, -⟩ := CommandLine.parts_of_draw hr
  rw [CommandLine.nameOf, ha.name] at hname
  have hp : p.name = r.name := Except.ok.inj hname
  refine ⟨?_, hp.symm, hkind.trans ha.kind⟩
  rw [CommandLine.lines_draw hr, ha.files, ha.kind, ha.overwrite, ha.grantCount, ← hp]
  rfl

/-- Until there is a transport, only what is public is told. -/
theorem lines_connect_of_shows (ha : a.Shows p)
    (ht : ((CommandLine.connect a.world a.config).run a.replies).result = .ok t) :
    (CommandLine.connect a.world a.config).lines a.replies = p.connectLines ∧
      t.base = Transport.trimSlashes p.url := by
  obtain ⟨c, d, hc, hd, hlines, hbase⟩ := CommandLine.lines_connect ht
  -- the configuration is the one of which `ha` tells
  obtain ⟨c', hc', hurl, hoptions⟩ := ha.loaded
  obtain ⟨d', hd', hstored⟩ := ha.stored
  obtain rfl : c = c' := Except.ok.inj (hc.symm.trans hc')
  obtain rfl : d = d' := Except.ok.inj (hd.symm.trans hd')
  rw [hlines, hbase, hstored, hoptions, hurl, ha.configFile, ha.isOverridden]
  exact ⟨rfl, rfl⟩

/-- It does not matter if what is written about connections is left out twice. -/
theorem own_lines_exchange {w : World} {j : Json} {replies : List Reply} {url : String}
    (hbase : t.base = Transport.trimSlashes url)
    (h : ((t.send w (Client.storeRequest j)).run replies).result = .ok x) :
    ((t.send w (Client.storeRequest j)).lines replies).filter LogFilter.own.shows =
      (Transport.exchangeLines (Transport.trimSlashes url) .put Client.dataPath x.status).filter
        LogFilter.own.shows := by
  have hown : ((t.send w (Client.storeRequest j)).lines replies).filter LogFilter.own.shows =
      Transport.exchangeLines t.base .put Client.dataPath x.status := Transport.own_lines_send h
  rw [← hbase, ← hown]
  exact (List.filter_eq_self.2 fun l hl => (List.mem_filter.1 hl).2).symm

/-- The log of a use is what is written up to the answer, and one line about the answer. -/
theorem log_eq (ha : a.Shows p) (hx : a.response = .ok x) :
    (x.isSuccess = false →
      a.log = (p.lines x.status ++ [Client.failedLine x.status]).filter LogFilter.own.shows) ∧
      (x.isSuccess = true → ∀ d, a.decoded x = .ok d →
        a.log = (p.lines x.status ++ [Details.decodedLine d.id d.name p.kind]).filter
          LogFilter.own.shows) := by
  obtain ⟨r, t, hr, ht, hsend⟩ := exists_of_response hx
  obtain ⟨hdraw, hname, hkind⟩ := lines_draw_of_shows ha hr
  obtain ⟨hconnect, hbase⟩ := lines_connect_of_shows ha ht
  -- what is printed in the end is no line of the log
  have hlog : a.log =
      (p.drawLines ++ (p.connectLines ++
        (Client.write (t.send a.world) r).lines a.replies)).filter LogFilter.own.shows := by
    unfold log CommandLine.Invocation.execute CommandLine.set
    rw [(CommandLine.isLocal_draw ..).lines_bind hr, (CommandLine.isLocal_connect ..).lines_bind ht,
      lines_bind_of_silent fun _ _ => rfl, hdraw, hconnect]
  have hexchange := own_lines_exchange hbase hsend
  rw [hlog, Public.lines, ← hname, ← hkind]
  constructor
  · intro hfailure
    rw [Client.lines_write_of_failure hsend hfailure]
    simp only [List.append_assoc, List.filter_append, hexchange]
  · intro hsuccess d hdecoded
    rw [decoded, ha.kind, ← hkind] at hdecoded
    rw [Client.lines_write_of_success hsend hsuccess hdecoded]
    simp only [List.append_assoc, List.filter_append, hexchange]

end

/-- Uses that agree on what is public and are answered alike write the same log. -/
theorem log_shows_what_is_public {a b : Storing} {p : Public} (ha : a.Shows p) (hb : b.Shows p)
    (h : a.AnsweredAlike b) : a.log = b.log := by
  obtain ⟨x, y, hx, hy, hstatus, hdecoded⟩ := h
  obtain ⟨hafailure, hasuccess⟩ := log_eq ha hx
  obtain ⟨hbfailure, hbsuccess⟩ := log_eq hb hy
  have hsame : y.isSuccess = x.isSuccess := by
    rw [Response.isSuccess, Response.isSuccess, hstatus]
  cases hsuccess : x.isSuccess with
  | false => rw [hafailure hsuccess, hbfailure (hsame.trans hsuccess), hstatus]
  | true =>
    obtain ⟨d, e, hd, he, hid, hname⟩ := hdecoded hsuccess
    rw [hasuccess hsuccess d hd, hbsuccess (hsame.trans hsuccess) e he, hstatus, hid, hname]

/-! ## Two uses side by side -/

theorem exists_of_toOption_map {α β : Type} {x : Except Error α} {f : α → β} {b : β}
    (h : x.toOption.map f = some b) : ∃ a, x = .ok a ∧ f a = b := by
  cases x with
  | error e => cases h
  | ok a => exact ⟨a, rfl, Option.some.inj h⟩

/-- The status of the answer, and the identifier and the name in its body. -/
def shown (a : Storing) : Option (Nat × Option (String × Name)) :=
  a.response.toOption.map fun x =>
    (x.status, (a.decoded x).toOption.map fun d => (d.id, d.name))

/-- To be answered alike it is enough to agree on status, identifier and name. -/
theorem answeredAlike_of_shown {a b : Storing} {status : Nat} {credential : String × Name}
    (ha : a.shown = some (status, some credential)) (hb : b.shown = some (status, some credential)) :
    a.AnsweredAlike b := by
  obtain ⟨x, hx, hxshown⟩ := exists_of_toOption_map ha
  obtain ⟨y, hy, hyshown⟩ := exists_of_toOption_map hb
  obtain ⟨hxstatus, hxbody⟩ := Prod.mk.inj hxshown
  obtain ⟨hystatus, hybody⟩ := Prod.mk.inj hyshown
  obtain ⟨d, hd, rfl⟩ := exists_of_toOption_map hxbody
  obtain ⟨e, he, hsame⟩ := exists_of_toOption_map hybody
  obtain ⟨hid, hname⟩ := Prod.mk.inj hsame
  exact ⟨x, y, hx, hy, hxstatus.trans hystatus.symm, fun _ => ⟨d, e, hd, he, hid.symm, hname.symm⟩⟩

/-- A world in which a URL and a token are configured, a file holds the name of a user, and the way to
every server is open. -/
def secretWorld (url token user : String) (environment : String → Option String) : World :=
  { World.empty with
    look := fun path =>
      if path = Config.fileName then
        .file (.text ("[server]\nurl = \"" ++ url ++ "\"\ntoken = \"" ++ token ++ "\"\n"))
      else if path = "/user" then .file (.text user)
      else .absent .notFound
    environment := environment
    passage := fun _ _ _ => .direct }

/-- Stores a user of this world with a password, which the server sends back. -/
def secretUse (w : World) (password : String) (actor : Actor) : Storing where
  world := w
  config := none
  raw := "/k"
  kind := .user
  overwrite := true
  fields := { username := some "@/user", password := some password }
  grants := [(Permission.ofActor actor).allow .read]
  replies :=
    [.answer
      { status := 200
        body := .text ("\x7b\"id\":\"1\",\"name\":\"/k\",\"type\":\"user\",\"value\":"
          ++ "\x7b\"password\":\"" ++ password ++ "\"\x7d\x7d") }]

/-- What is public about such a use. -/
def userPublic (storedUrl : String) (isOverridden : Bool) : Public where
  name := ⟨"/k", isCanonical_k⟩
  kind := .user
  overwrite := true
  grantCount := 1
  files := ["/user"]
  configFile := some Config.fileName
  url := "https://[::1]:8844"
  options := {}
  storedUrl := storedUrl
  isOverridden := isOverridden

/-- An environment with one variable. -/
def setting (name value : String) (other : String) : Option String :=
  if other = name then some value else none

/-- A use in which nothing comes from the environment. -/
def firstUse : Storing :=
  secretUse (secretWorld "https://[::1]:8844" "t" "alice" fun _ => none) "p" ⟨.app, "x"⟩

/-- A use with other secrets, the token of which comes from the environment. -/
def secondUse : Storing :=
  secretUse (secretWorld "https://[::1]:8844" "s" "bob" (setting Config.tokenVariable "u")) "q"
    ⟨.user, "y"⟩

/-- The first use in an environment that repeats the URL of the configuration file. -/
def repeatedUse : Storing :=
  secretUse (secretWorld "https://[::1]:8844" "t" "alice"
    (setting Config.urlVariable "https://[::1]:8844")) "p" ⟨.app, "x"⟩

/-- The first use in an environment that replaces the URL of the configuration file. -/
def replacedUse : Storing :=
  secretUse (secretWorld "https://[::1]" "t" "alice"
    (setting Config.urlVariable "https://[::1]:8844")) "p" ⟨.app, "x"⟩

/-- What is public about a use does not depend on the password, the token or the actor. -/
theorem secretUse_shows {w : World} {password storedUrl : String} {actor : Actor} {b : Bool}
    (hpassword : Fields.filePath? (some password) = none)
    (hlook : Config.locate w none = some Config.fileName)
    (hstored : (((Config.stored w none).run (secretUse w password actor).replies).result.toOption.map
      fun d => (d.url, d.options)) = some (storedUrl, {}))
    (hurl : (w.environment Config.urlVariable).getD storedUrl = "https://[::1]:8844")
    (hb : (w.environment Config.urlVariable).isSome = b) :
    (secretUse w password actor).Shows (userPublic storedUrl b) := by
  obtain ⟨d, hd, hshown⟩ := exists_of_toOption_map hstored
  obtain ⟨rfl, hoptions⟩ := Prod.mk.inj hshown
  have hfault : (Config.override w d).fault? = none := by
    have hoverridden : (Config.override w d).url = "https://[::1]:8844" := hurl
    rw [Config.fault?, hoverridden]
    decide
  have huser : Fields.filePath? (some "@/user") = some "/user" := by decide
  exact
    { name := Name.ofString?_text ⟨"/k", isCanonical_k⟩
      kind := rfl
      overwrite := rfl
      grantCount := rfl
      files := by simp [secretUse, userPublic, Fields.files, Fields.own, huser, hpassword]
      configFile := hlook
      loaded := ⟨_, Config.result_load_eq_ok_iff.2 ⟨d, hd, rfl, hfault⟩, hurl, hoptions⟩
      stored := ⟨d, hd, rfl⟩
      isOverridden := hb }

theorem firstUse_shows : firstUse.Shows (userPublic "https://[::1]:8844" false) :=
  secretUse_shows (by decide) (by decide) (by decide +kernel) rfl rfl

theorem secondUse_shows : secondUse.Shows (userPublic "https://[::1]:8844" false) :=
  secretUse_shows (by decide) (by decide) (by decide +kernel) rfl rfl

theorem repeatedUse_shows : repeatedUse.Shows (userPublic "https://[::1]:8844" true) :=
  secretUse_shows (by decide) (by decide) (by decide +kernel) rfl rfl

theorem replacedUse_shows : replacedUse.Shows (userPublic "https://[::1]" true) :=
  secretUse_shows (by decide) (by decide) (by decide +kernel) rfl rfl

/-- What every one of these uses is answered with. -/
def userShown : Option (Nat × Option (String × Name)) :=
  some (200, some ("1", ⟨"/k", isCanonical_k⟩))

theorem firstUse_shown : firstUse.shown = userShown := by decide +kernel

theorem secondUse_shown : secondUse.shown = userShown := by decide +kernel

theorem repeatedUse_shown : repeatedUse.shown = userShown := by decide +kernel

theorem replacedUse_shown : replacedUse.shown = userShown := by decide +kernel

/-- The two uses have no secret in common, and the server answers them alike. -/
theorem firstUse_log_eq : firstUse.AnsweredAlike secondUse ∧ firstUse.log = secondUse.log := by
  have hanswered := answeredAlike_of_shown firstUse_shown secondUse_shown
  exact ⟨hanswered, log_shows_what_is_public firstUse_shows secondUse_shows hanswered⟩

/-- Of three uses of one server, the environment of the second repeats the URL and that of the third
replaces another; each of them shows in the log. -/
theorem source_of_url_shows :
    (firstUse.Shows (userPublic "https://[::1]:8844" false) ∧
      repeatedUse.Shows (userPublic "https://[::1]:8844" true) ∧
      firstUse.AnsweredAlike repeatedUse ∧
      Config.overriddenLine ∈ repeatedUse.log ∧ Config.overriddenLine ∉ firstUse.log) ∧
      replacedUse.Shows (userPublic "https://[::1]" true) ∧
      repeatedUse.AnsweredAlike replacedUse ∧
      (∀ line ∈ Config.fileLines Config.fileName "https://[::1]", line ∈ replacedUse.log) ∧
      ¬ ∀ line ∈ Config.fileLines Config.fileName "https://[::1]", line ∈ repeatedUse.log := by
  have hrepeated := answeredAlike_of_shown firstUse_shown repeatedUse_shown
  have hreplaced := answeredAlike_of_shown repeatedUse_shown replacedUse_shown
  exact ⟨⟨firstUse_shows, repeatedUse_shows, hrepeated, by decide +kernel, by decide +kernel⟩,
    replacedUse_shows, hreplaced, by decide +kernel, by decide +kernel⟩

end Storing

end Credentials
