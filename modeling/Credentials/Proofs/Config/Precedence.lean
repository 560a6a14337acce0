import Credentials.Proofs.Config.Document
import Credentials.Proofs.Config.ServerUrl
import Credentials.Proofs.Text.Parts

/-!
# Which configuration counts

Loading looks for the first candidate there is, and what it finds there settles what comes next: what
cannot be read or parsed is a failure, whatever the environment or a later candidate says, and so is a
file that was asked for and is not there. Only then does the environment override the URL and the
token, and only then is the URL looked at (`Config.Loads`). Nothing else in the world counts. Main
statement: `Config.load_follows_precedence`.
-/

namespace Credentials

namespace Config

open Http (webSchemes)

variable {σ : Type}

/-! ## Candidates -/

/-- The places to look at: the path that is asked for and no other, or else a file in the working
directory and one among the configurations of the user. -/
def candidates (w : World) : Option String → List String
  | some path => [path]
  | none => "credhub.toml" :: (w.configHome.map fun d => d ++ "/credhub/credhub.toml").toList

/-- What the first of some paths leads to at which there is anything. -/
inductive FirstPresent (w : World) : List String → Option Entry → Prop
  | present {before after : List String} {path : String}
      (hbefore : ∀ p ∈ before, (w.look p).isPresent = false)
      (hpath : (w.look path).isPresent = true) :
      FirstPresent w (before ++ path :: after) (some (w.look path))
  | absent {paths : List String} (h : ∀ p ∈ paths, (w.look p).isPresent = false) :
      FirstPresent w paths none

/-- Looking at paths in order finds the first at which there is anything. -/
theorem firstPresent_iff {w : World} {paths : List String} {found : Option Entry} :
    FirstPresent w paths found ↔
      (paths.find? fun p => (w.look p).isPresent).map w.look = found := by
  constructor
  · rintro (⟨hbefore, hpath⟩ | h)
    · rename_i before after path
      have hfind : (before ++ path :: after).find? (fun p => (w.look p).isPresent) = some path :=
        List.find?_eq_some_iff_append.2
          ⟨hpath, before, after, rfl, fun p hp => by simp [hbefore p hp]⟩
      rw [hfind]
      rfl
    · have hfind : paths.find? (fun p => (w.look p).isPresent) = none :=
        List.find?_eq_none.2 fun p hp => by simp [h p hp]
      rw [hfind]
      rfl
  · rintro rfl
    cases hfind : paths.find? fun p => (w.look p).isPresent with
    | none => exact .absent fun p hp => by simpa using List.find?_eq_none.1 hfind p hp
    | some path =>
      obtain ⟨hpath, before, after, rfl, hbefore⟩ := List.find?_eq_some_iff_append.1 hfind
      exact .present (fun p hp => by simpa using hbefore p hp) hpath

/-- The file that is located is the first of the candidates. -/
theorem firstPresent_candidates_iff {w : World} {explicit : Option String} {found : Option Entry} :
    FirstPresent w (candidates w explicit) found ↔ (locate w explicit).map w.look = found := by
  have huser : userPath w = w.configHome.map fun d => d ++ "/credhub/credhub.toml" := by
    refine congrArg (Option.map · w.configHome) (funext fun d => ?_)
    rw [String.append_assoc]
    rfl
  rw [firstPresent_iff]
  cases explicit with
  | some path => rfl
  | none =>
    unfold locate candidates
    rw [huser]
    rfl

/-! ## What is stored -/

/-- A text is a document that gives a configuration. -/
def Parses (text : String) (c : Config) : Prop :=
  ∃ root, Toml.read? text = some root ∧ Describes root c

theorem parses_iff {text : String} {c : Config} :
    Parses text c ↔ (Toml.read? text).bind ofToml? = some c := by
  simp only [Option.bind_eq_some_iff, Parses, ofToml?_eq_some_iff]

/-- What the first candidate holds, where `asked` says whether a certain file was asked for. -/
inductive Stored (asked : Bool) : Option Entry → Except Error Config → Prop
  | missing (h : asked = true) : Stored asked none (.error (.config .notFound))
  | default (h : asked = false) : Stored asked none (.ok {})
  | unreadable {entry : Entry} {e : FileError} (h : entry.readText = .error e) :
      Stored asked (some entry) (.error (.config (.unreadable e)))
  | unparsable {entry : Entry} {text : String} (h : entry.readText = .ok text)
      (hparses : ∀ c, ¬ Parses text c) : Stored asked (some entry) (.error (.config .unparsable))
  | parsed {entry : Entry} {text : String} {c : Config} (h : entry.readText = .ok text)
      (hparses : Parses text c) : Stored asked (some entry) (.ok c)

/-- Whatever is found, something is stored or a failure. -/
theorem exists_stored (asked : Bool) (found : Option Entry) : ∃ x, Stored asked found x := by
  cases found with
  | none =>
    cases asked with
    | true => exact ⟨_, .missing rfl⟩
    | false => exact ⟨_, .default rfl⟩
  | some entry =>
    cases htext : entry.readText with
    | error e => exact ⟨_, .unreadable htext⟩
    | ok text =>
      by_cases hparses : ∃ c, Parses text c
      · obtain ⟨c, hc⟩ := hparses
        exact ⟨_, .parsed htext hc⟩
      · exact ⟨_, .unparsable htext (not_exists.1 hparses)⟩

/-- Reading a file comes to what it holds. -/
theorem result_ofFile {asked : Bool} {w : World} {path : String} {x : Except Error Config}
    (h : Stored asked (some (w.look path)) x) (s : σ) : ((ofFile w path).run s).result = x := by
  have hread (r : Except FileError String) (hr : (w.look path).readText = r) :
      (w.readText path).run s = ⟨.ok r, [.opened path], s⟩ := by
    rw [← hr]
    rfl
  unfold ofFile
  cases h with
  | unreadable h =>
    simp only [Run.run_bind, Run.log, Run.run_emit, hread _ h]
    rfl
  | unparsable h hparses =>
    have hnone : (Toml.read? _).bind ofToml? = none :=
      Option.eq_none_iff_forall_ne_some.2 fun c hc => hparses c (parses_iff.2 hc)
    simp only [Run.run_bind, Run.log, Run.run_emit, hread _ h, hnone]
    rfl
  | parsed h hparses =>
    simp only [Run.run_bind, Run.log, Run.run_emit, hread _ h, parses_iff.1 hparses]
    rfl

/-- What is stored is settled by what the first candidate leads to. -/
theorem result_stored {w : World} {explicit : Option String} {found : Option Entry}
    {x : Except Error Config} (hfound : FirstPresent w (candidates w explicit) found)
    (h : Stored explicit.isSome found x) (s : σ) : ((stored w explicit).run s).result = x := by
  rw [firstPresent_candidates_iff] at hfound
  subst hfound
  unfold stored
  cases hlocate : locate w explicit with
  | some path =>
    rw [hlocate] at h
    exact result_ofFile h s
  | none =>
    rw [hlocate] at h
    cases h with
    | missing hasked =>
      simp only [hasked, if_true]
      rfl
    | default hasked =>
      simp only [hasked]
      rfl

/-! ## What comes of it -/

/-- What is said about a configuration with everything in place. -/
inductive Verdict (c : Config) : Except Error Config → Prop
  | empty (h : c.url = "") : Verdict c (.error (.config .notFound))
  | blank (hne : c.url ≠ "") (h : Text.Trims c.url "") : Verdict c (.error (.config .missingUrl))
  | foreign {url : String} (h : Text.Trims c.url url) (hne : url ≠ "")
      (hscheme : ∀ scheme ∈ webSchemes, ¬ scheme <+: url.toList) :
      Verdict c (.error (.config (.invalidUrl url)))
  | web {url : String} {scheme : List Char} (h : Text.Trims c.url url) (hmem : scheme ∈ webSchemes)
      (hscheme : scheme <+: url.toList) : Verdict c (.ok c)

/-- Every configuration is judged. -/
theorem exists_verdict (c : Config) : ∃ x, Verdict c x := by
  by_cases hempty : c.url = ""
  · exact ⟨_, .empty hempty⟩
  · have htrims := Text.trims_trim c.url
    by_cases hblank : Text.trim c.url = ""
    · exact ⟨_, .blank hempty (hblank ▸ htrims)⟩
    · by_cases hscheme : ∃ scheme ∈ webSchemes, scheme <+: (Text.trim c.url).toList
      · obtain ⟨scheme, hmem, hprefix⟩ := hscheme
        exact ⟨_, .web htrims hmem hprefix⟩
      · simp only [not_exists, not_and] at hscheme
        exact ⟨_, .foreign htrims hblank hscheme⟩

/-- The check says what the verdict is. -/
theorem checked_eq {c : Config} {x : Except Error Config} (h : Verdict c x) : checked c = x := by
  unfold checked fault?
  cases h with
  | empty h => rw [if_pos h]
  | blank hne h =>
    simp only [if_neg hne, Text.trim_eq_iff.2 h]
    rfl
  | @foreign url h hne hscheme =>
    have hno : ¬ Http.hasWebScheme url = true := by
      rw [Http.hasWebScheme_iff]
      rintro ⟨scheme, hmem, hprefix⟩
      exact hscheme scheme hmem hprefix
    simp only [if_neg (h.ne_empty hne), Text.trim_eq_iff.2 h, if_neg hne, if_neg hno]
  | @web url scheme h hmem hscheme =>
    have hyes : Http.hasWebScheme url = true := Http.hasWebScheme_iff.2 ⟨scheme, hmem, hscheme⟩
    have hne : url ≠ "" := by
      rintro rfl
      exact absurd hyes (by decide)
    simp only [if_neg (h.ne_empty hne), Text.trim_eq_iff.2 h, if_neg hne, if_pos hyes]

/-- What loading comes to: what is stored, unless it is a failure, with the URL and the token that
are given beside it, as far as they are. -/
inductive Loads (asked : Bool) (found : Option Entry) (url token : Option String) :
    Except Error Config → Prop
  | failed {e : Error} (h : Stored asked found (.error e)) : Loads asked found url token (.error e)
  | judged {c : Config} {x : Except Error Config} (h : Stored asked found (.ok c))
      (hx : Verdict ⟨url.getD c.url, token <|> c.token, c.options⟩ x) :
      Loads asked found url token x

theorem exists_loads (asked : Bool) (found : Option Entry) (url token : Option String) :
    ∃ x, Loads asked found url token x := by
  obtain ⟨stored, hstored⟩ := exists_stored asked found
  cases stored with
  | error e => exact ⟨_, .failed hstored⟩
  | ok c =>
    obtain ⟨x, hx⟩ := exists_verdict ⟨url.getD c.url, token <|> c.token, c.options⟩
    exact ⟨x, .judged hstored hx⟩

/-- Loading comes to what the first candidate and the two variables settle. -/
theorem result_load {w : World} {explicit : Option String} {found : Option Entry}
    {x : Except Error Config} (hfound : FirstPresent w (candidates w explicit) found)
    (h : Loads explicit.isSome found (w.environment "CREDHUB_URL") (w.environment "CREDHUB_TOKEN") x)
    (s : σ) : ((load w explicit).run s).result = x := by
  rw [load_eq]
  cases h with
  | failed h => exact Run.result_bind_eq_error_iff.2 (.inl (result_stored hfound h s))
  | judged h hx =>
    rw [(isLocal_stored w explicit).result_bind (result_stored hfound h s),
      Run.run_bind_of_ok (result_announce w s), Run.result_ofExcept]
    exact checked_eq hx

/-- Loading depends on the first candidate there is and on two variables, and takes them in this
order. In worlds that agree on these it comes to the same. -/
theorem load_follows_precedence (w : World) (explicit : Option String) (s : σ) :
    (∃ found, FirstPresent w (candidates w explicit) found ∧ ∀ x,
      ((load w explicit).run s).result = x ↔
        Loads explicit.isSome found (w.environment "CREDHUB_URL") (w.environment "CREDHUB_TOKEN")
          x) ∧
    ∀ (w' : World) (found : Option Entry), FirstPresent w (candidates w explicit) found →
      FirstPresent w' (candidates w' explicit) found →
      w'.environment "CREDHUB_URL" = w.environment "CREDHUB_URL" →
      w'.environment "CREDHUB_TOKEN" = w.environment "CREDHUB_TOKEN" →
        ((load w' explicit).run s).result = ((load w explicit).run s).result := by
  -- The relation holds of some result and settles it, so it holds of no other one.
  refine ⟨⟨_, firstPresent_candidates_iff.2 rfl, fun x => ⟨?_, ?_⟩⟩, ?_⟩
  · rintro rfl
    obtain ⟨x, hx⟩ := exists_loads explicit.isSome ((locate w explicit).map w.look)
      (w.environment "CREDHUB_URL") (w.environment "CREDHUB_TOKEN")
    rw [result_load (firstPresent_candidates_iff.2 rfl) hx s]
    exact hx
  · intro hx
    exact result_load (firstPresent_candidates_iff.2 rfl) hx s
  · intro w' found hfound hfound' hurl htoken
    obtain ⟨x, hx⟩ := exists_loads explicit.isSome found (w.environment "CREDHUB_URL")
      (w.environment "CREDHUB_TOKEN")
    rw [result_load hfound hx s]
    rw [← hurl, ← htoken] at hx
    exact result_load hfound' hx s

/-- A world without files in which both variables are set. -/
def bareWorld : World :=
  { World.empty with
    environment := fun name =>
      if name = "CREDHUB_URL" then some " https://h"
      else if name = "CREDHUB_TOKEN" then some "t"
      else none }

/-- The same world with a directory in place of a file. -/
def blockedWorld : World :=
  { bareWorld with
    look := fun path => if path = "credhub.toml" then .directory else .absent .notFound }

/-- A document with a URL, a token and options. -/
def document : String :=
  "[server]\nurl = 'https://h'\ntoken = 's'\n\n[client]\nread_timeout_ms = 1500\n" ++
    "ca_cert_files = ['/ca.pem']\n"

/-- A world in which the user has this document, and the token is set too. -/
def userWorld : World :=
  { World.empty with
    look := fun path =>
      if path = "/u/credhub/credhub.toml" then .file (.text document) else .absent .notFound
    environment := fun name => if name = "CREDHUB_TOKEN" then some "t" else none
    configHome := some "/u" }

/-- What the document gives. -/
def documented : Config where
  url := "https://h"
  token := some "s"
  options :=
    { readTimeout := some (.ofMillis 1500 (by decide)), certificateFiles := some ["/ca.pem"] }

theorem parses_document : Parses document documented := by
  have hread : ((Toml.read? document).bind ofToml?).map (fun c => (c.url, c.token, c.options)) =
      some (documented.url, documented.token, documented.options) := by
    decide +kernel
  obtain ⟨c, hc, hparts⟩ := Option.map_eq_some_iff.1 hread
  cases c
  cases hparts
  exact parses_iff.2 hc

/-- The variables do for a file that may be missing, but neither for one that was asked for nor for
one that cannot be read, whatever the user has. What the user has counts where nothing else is, apart
from what the variables override. -/
theorem bareWorld_follows_precedence :
    ((load bareWorld none).run ()).result = .ok ⟨" https://h", some "t", {}⟩ ∧
      ((load bareWorld (some "here.toml")).run ()).result = .error (.config .notFound) ∧
      ((load blockedWorld none).run ()).result = .error (.config (.unreadable .isDirectory)) ∧
      ((load userWorld none).run ()).result = .ok { documented with token := some "t" } ∧
      ∀ look : String → Entry, look "credhub.toml" = .directory →
        ((load { blockedWorld with look, configHome := some "/u" } none).run ()).result =
          ((load blockedWorld none).run ()).result := by
  refine ⟨?_, ?_, ?_, ?_, fun look hlook => ?_⟩
  · obtain ⟨found, hfound, hload⟩ := (load_follows_precedence bareWorld none ()).1
    obtain rfl : none = found := firstPresent_candidates_iff.1 hfound
    have htrims : Text.Trims " https://h" "https://h" := Text.trim_eq_iff.1 (by decide)
    exact (hload _).2 (.judged (.default rfl)
      (.web htrims (List.mem_cons_self : "https://".toList ∈ webSchemes) ⟨['h'], rfl⟩))
  · obtain ⟨found, hfound, hload⟩ := (load_follows_precedence bareWorld (some "here.toml") ()).1
    obtain rfl : none = found := firstPresent_candidates_iff.1 hfound
    exact (hload _).2 (.failed (.missing rfl))
  · obtain ⟨found, hfound, hload⟩ := (load_follows_precedence blockedWorld none ()).1
    obtain rfl : some .directory = found := firstPresent_candidates_iff.1 hfound
    exact (hload _).2 (.failed (.unreadable rfl))
  · obtain ⟨found, hfound, hload⟩ := (load_follows_precedence userWorld none ()).1
    obtain rfl : some (.file (.text document)) = found := firstPresent_candidates_iff.1 hfound
    have htrims : Text.Trims "https://h" "https://h" := Text.trim_eq_iff.1 (by decide)
    exact (hload _).2 (.judged (.parsed rfl parses_document)
      (.web htrims (List.mem_cons_self : "https://".toList ∈ webSchemes) ⟨['h'], rfl⟩))
  · have hfound : FirstPresent blockedWorld (candidates blockedWorld none) (some .directory) :=
      firstPresent_candidates_iff.2 rfl
    have hfound' (w : World) (hw : w.look "credhub.toml" = .directory) :
        FirstPresent w (candidates w none) (some .directory) := by
      rw [firstPresent_iff, candidates, List.find?_cons_of_pos (by rw [hw]; rfl)]
      exact congrArg some hw
    exact (load_follows_precedence blockedWorld none ()).2 _ _ hfound (hfound' _ hlook) rfl rfl

end Config

end Credentials
