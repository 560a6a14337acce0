import Credentials.Proofs.Circulation
import Credentials.Proofs.Command.Contact
import Credentials.Proofs.Config.ServerUrl

/-!
# Validation before contact

A credential is refused for its name, else for the first of its files that cannot be read, else for
what its texts say (`Flaw`), and a request is made of it exactly if there is no such flaw
(`result_draw_eq_error_iff`). As this is settled by the arguments and the files they name, and comes
before the configuration is looked up, a refusal is the same wherever these files are the same. Main
statement: `validation_precedes_contact`.
-/

namespace Credentials

open Run
open Http (Reply Transport)

/-! ## What is wrong with texts -/

/-- The value, if it breaks no rule of presence. -/
def Value.checked (v : Value) : Except Error Value :=
  match v.fault? with
  | some e => .error (.validation e)
  | none => .ok v

theorem Value.checked_eq_error_iff {v : Value} {e : Error} :
    v.checked = .error e ↔ ∃ x, v.fault? = some x ∧ e = .validation x := by
  unfold checked
  cases v.fault? <;> simp [eq_comm]

namespace Fields

/-- There is no text but the empty one. -/
def IsVoid (text : Option String) : Prop := ∀ s ∈ text, s = ""

/-- What is wrong with the texts of the arguments of a kind. -/
inductive Unfit : Kind → List (Option String) → Error → Prop
  | noText {t : Option String} (h : IsVoid t) :
      Unfit .value [t] (.validation (.emptyField .value "value"))
  | noPassword {t : Option String} (h : IsVoid t) :
      Unfit .password [t] (.validation (.emptyField .password "password"))
  | notJson {s : String} {e : Json.SyntaxError} (h : Json.read s = .error e) :
      Unfit .json [some s] (.codec (.notJson e))
  | notObject {s : String} {j : Json} (h : Json.read s = .ok j) (hj : ∀ o, j ≠ .object o) :
      Unfit .json [some s] (.malformed .payloadNotObject)
  | noMembers {t : Option String}
      (h : ∀ s ∈ t, ∃ o : Json.Object, Json.read s = .ok (.object o) ∧ o.toList = []) :
      Unfit .json [t] (.validation (.emptyField .json "value"))
  | noSshKeys {p q : Option String} (hp : IsVoid p) (hq : IsVoid q) :
      Unfit .ssh [p, q] (.validation (.noKeys .ssh))
  | noRsaKeys {p q : Option String} (hp : IsVoid p) (hq : IsVoid q) :
      Unfit .rsa [p, q] (.validation (.noKeys .rsa))

/-- A missing text counts as an empty one. -/
theorem isVoid_iff {t : Option String} : IsVoid t ↔ t.getD "" = "" := by
  cases t <;> simp [IsVoid]

/-- The value that texts describe, if it may be stored. -/
def checkedValue (kind : Kind) (ts : List (Option String)) : Except Error Value :=
  valueOf kind ts >>= Value.checked

theorem key_eq_none_iff {t : Option String} : KeyPair.key t = none ↔ IsVoid t := by
  cases t <;> simp [KeyPair.key, IsVoid]

/-- A pair of keys is empty if both texts are missing or empty. -/
theorem isEmpty_ofKeys_iff {p q : Option String} :
    (KeyPair.ofKeys p q).isEmpty = true ↔ IsVoid p ∧ IsVoid q := by
  rw [KeyPair.isEmpty_iff, ← key_eq_none_iff, ← key_eq_none_iff]
  exact Iff.rfl

/-- Texts are refused because no value can be made of them, or because the value breaks a rule. -/
theorem checkedValue_eq_error_iff {kind : Kind} {ts : List (Option String)} {e : Error} :
    checkedValue kind ts = .error e ↔
      valueOf kind ts = .error e ∨
        ∃ v x, valueOf kind ts = .ok v ∧ v.fault? = some x ∧ e = .validation x := by
  rw [checkedValue, bind_eq_error_iff]
  simp only [Value.checked_eq_error_iff, exists_and_left]

theorem valueOf_json (t : Option String) :
    valueOf .json [t] = (jsonObject (t.getD "\x7b\x7d")).map .json := rfl

/-- What is unfit is refused, with the error that says how. -/
theorem Unfit.refused {kind : Kind} {ts : List (Option String)} {e : Error} (h : Unfit kind ts e) :
    checkedValue kind ts = .error e := by
  have hrefused {v : Value} {x : ValidationError} (hv : valueOf kind ts = .ok v)
      (hx : v.fault? = some x) : checkedValue kind ts = .error (.validation x) :=
    checkedValue_eq_error_iff.2 (.inr ⟨v, x, hv, hx, rfl⟩)
  cases h with
  | noText h => exact hrefused rfl (if_pos (isVoid_iff.1 h))
  | noPassword h => exact hrefused rfl (if_pos (isVoid_iff.1 h))
  | notJson h =>
    refine checkedValue_eq_error_iff.2 (.inl ?_)
    rw [valueOf_json, Option.getD_some, jsonObject_eq_error_iff.2 (.inl ⟨_, h, rfl⟩)]
    rfl
  | notObject h hj =>
    refine checkedValue_eq_error_iff.2 (.inl ?_)
    rw [valueOf_json, Option.getD_some, jsonObject_eq_error_iff.2 (.inr ⟨_, h, hj, rfl⟩)]
    rfl
  | @noMembers t h =>
    obtain ⟨o, hread, hempty⟩ :
        ∃ o : Json.Object, Json.read (t.getD "\x7b\x7d") = .ok (.object o) ∧ o.toList = [] := by
      cases t with
      | none => exact ⟨.empty, rfl, rfl⟩
      | some s => exact h s rfl
    have hvalue : valueOf .json [t] = .ok (.json o) := by
      rw [valueOf_json, jsonObject_eq_ok_iff.2 hread]
      rfl
    exact hrefused hvalue (if_pos (List.isEmpty_iff.2 hempty))
  | noSshKeys hp hq => exact hrefused rfl (if_pos (isEmpty_ofKeys_iff.2 ⟨hp, hq⟩))
  | noRsaKeys hp hq => exact hrefused rfl (if_pos (isEmpty_ofKeys_iff.2 ⟨hp, hq⟩))

/-- What is refused is unfit, if there is a text for each argument. -/
theorem unfit_of_checkedValue {f : Fields} {kind : Kind} {ts : List (Option String)} {e : Error}
    (hlength : ts.length = (f.own kind).length) (h : checkedValue kind ts = .error e) :
    Unfit kind ts e := by
  cases kind with
  | value =>
    obtain ⟨t, rfl⟩ := List.length_eq_one_iff.1 hlength
    obtain ⟨⟨⟩⟩ | ⟨v, x, ⟨⟩, hx, rfl⟩ := checkedValue_eq_error_iff.1 h
    obtain ⟨hempty, ⟨⟩⟩ := Option.ite_none_right_eq_some.1 hx
    exact .noText (isVoid_iff.2 hempty)
  | password =>
    obtain ⟨t, rfl⟩ := List.length_eq_one_iff.1 hlength
    obtain ⟨⟨⟩⟩ | ⟨v, x, ⟨⟩, hx, rfl⟩ := checkedValue_eq_error_iff.1 h
    obtain ⟨hempty, ⟨⟩⟩ := Option.ite_none_right_eq_some.1 hx
    exact .noPassword (isVoid_iff.2 hempty)
  | json =>
    obtain ⟨t, rfl⟩ := List.length_eq_one_iff.1 hlength
    rcases checkedValue_eq_error_iff.1 h with hobject | ⟨v, x, hobject, hx, rfl⟩
    · rw [valueOf_json, map_eq_error_iff] at hobject
      cases t with
      | none => cases hobject
      | some s =>
        rcases jsonObject_eq_error_iff.1 hobject with ⟨x, hread, rfl⟩ | ⟨j, hread, hj, rfl⟩
        · exact .notJson hread
        · exact .notObject hread hj
    · rw [valueOf_json, map_eq_ok_iff] at hobject
      obtain ⟨o, hobject, rfl⟩ := hobject
      obtain ⟨hempty, ⟨⟩⟩ := Option.ite_none_right_eq_some.1 hx
      refine .noMembers ?_
      rintro s ⟨⟩
      exact ⟨o, jsonObject_eq_ok_iff.1 hobject, List.isEmpty_iff.1 hempty⟩
  | user => cases h
  | certificate => cases h
  | ssh =>
    obtain ⟨p, q, rfl⟩ := List.length_eq_two.1 hlength
    obtain ⟨⟨⟩⟩ | ⟨v, x, ⟨⟩, hx, rfl⟩ := checkedValue_eq_error_iff.1 h
    obtain ⟨hempty, ⟨⟩⟩ := Option.ite_none_right_eq_some.1 hx
    exact .noSshKeys (isEmpty_ofKeys_iff.1 hempty).1 (isEmpty_ofKeys_iff.1 hempty).2
  | rsa =>
    obtain ⟨p, q, rfl⟩ := List.length_eq_two.1 hlength
    obtain ⟨⟨⟩⟩ | ⟨v, x, ⟨⟩, hx, rfl⟩ := checkedValue_eq_error_iff.1 h
    obtain ⟨hempty, ⟨⟩⟩ := Option.ite_none_right_eq_some.1 hx
    exact .noRsaKeys (isEmpty_ofKeys_iff.1 hempty).1 (isEmpty_ofKeys_iff.1 hempty).2

/-- What is wrong with the arguments for a value: the first file that cannot be read, or else what
the texts say. -/
inductive Faulty (w : World) (f : Fields) (kind : Kind) : Error → Prop
  | unreadable {before after : List (Option String)} {path : String} {e : FileError}
      (hown : f.own kind = before ++ some ("@" ++ path) :: after)
      (hbefore : ∀ a ∈ before, ∃ t, Denotes w a t) (hfile : (w.look path).readText = .error e) :
      Faulty w f kind (.file e)
  | unfit {ts : List (Option String)} {e : Error} (hread : (f.own kind).Forall₂ (Denotes w) ts)
      (h : Unfit kind ts e) : Faulty w f kind e

/-- Arguments are at fault for a file that cannot be read, or else for their texts. -/
theorem faulty_iff {w : World} {f : Fields} {kind : Kind} {e : Error} :
    f.Faulty w kind e ↔
      (f.own kind).mapM (textOf w) = .error e ∨
        ∃ ts, (f.own kind).mapM (textOf w) = .ok ts ∧ checkedValue kind ts = .error e := by
  simp only [mapM_eq_error_iff, mapM_eq_ok_iff, textOf_eq_error_iff, textOf_eq_ok_iff]
  constructor
  · intro h
    cases h with
    | unreadable hown hbefore hfile =>
      exact .inl ⟨_, _, _, hown, hbefore, _, _, rfl, hfile, rfl⟩
    | unfit hread h => exact .inr ⟨_, hread, h.refused⟩
  · rintro (⟨before, a, after, hown, hbefore, path, fault, rfl, hfile, rfl⟩ | ⟨ts, hread, h⟩)
    · exact .unreadable hown hbefore hfile
    · exact .unfit hread (unfit_of_checkedValue hread.length_eq.symm h)

end Fields

/-! ## Drawing a request -/

namespace CommandLine

/-- What is wrong with a credential that is to be stored: its name, or else the arguments for its
value. -/
inductive Flaw (w : World) (raw : String) (kind : Kind) (fields : Fields) : Error → Prop
  | misnamed (h : ∀ c ∈ raw.toList, c = '/') : Flaw w raw kind fields (.validation .emptyName)
  | faulty {e : Error} (hname : ∃ c ∈ raw.toList, c ≠ '/') (h : fields.Faulty w kind e) :
      Flaw w raw kind fields e

section

variable {w : World} {raw : String} {kind : Kind} {overwrite : Bool} {fields : Fields}
  {grants : List Permission} {replies : List Reply} {e : Error}

/-- A request is made unless there is a flaw. -/
theorem result_draw_eq_error_iff :
    ((draw w raw kind overwrite fields grants).run replies).result = .error e ↔
      Flaw w raw kind fields e := by
  -- With a name, all that can go wrong is the value, and the same for every name.
  have hvalue (name : Name) : ((fields.makeValue w kind >>= fun value =>
      (⟨some name, overwrite, some value, grants⟩ : Draft).make).run replies).result = .error e ↔
        fields.Faulty w kind e := by
    rw [Fields.faulty_iff, result_bind_eq_error_iff, Fields.run_makeValue]
    simp only [Draft.result_make, Draft.build_eq_error_iff, Fields.checkedValue_eq_error_iff]
    cases (fields.own kind).mapM (Fields.textOf w) with
    | error x => simp [bind, Except.bind]
    | ok ts => simp [ok_bind]
  unfold draw
  cases hname : nameOf raw with
  | error x =>
    obtain ⟨hall, rfl⟩ := nameOf_eq_error_iff.1 hname
    constructor
    · rintro ⟨⟩
      exact .misnamed hall
    · intro h
      cases h with
      | misnamed => rfl
      | faulty hother =>
        obtain ⟨c, hc, hne⟩ := hother
        exact absurd (hall c hc) hne
  | ok name =>
    have hother : ∃ c ∈ raw.toList, c ≠ '/' := by
      by_contra hall
      simp only [not_exists, not_and, not_not] at hall
      rw [nameOf_eq_error_iff.2 ⟨hall, rfl⟩] at hname
      cases hname
    rw [ofExcept_ok, pure_bind, hvalue]
    constructor
    · exact .faulty hother
    · intro h
      cases h with
      | misnamed hall =>
        obtain ⟨c, hc, hne⟩ := hother
        exact absurd (hall c hc) hne
      | faulty _ h => exact h

/-- What is seen of a refusal is the reading of files. -/
theorem exists_of_mem_events_draw
    (h : ((draw w raw kind overwrite fields grants).run replies).result = .error e) {ev : Event}
    (hev : ev ∈ ((draw w raw kind overwrite fields grants).run replies).events) :
    ∃ path ∈ fields.files kind, ev ∈ Fields.fileReading path := by
  unfold draw at h hev
  cases hname : nameOf raw with
  | error x =>
    rw [hname] at hev
    cases hev
  | ok name =>
    rw [hname, ofExcept_ok, pure_bind] at h hev
    refine Fields.exists_of_mem_readings (w := w) ?_
    rw [run_bind, Fields.run_makeValue] at h hev
    cases hvalue : (fields.own kind).mapM (Fields.textOf w) >>= Fields.valueOf kind with
    | error x => simpa only [hvalue] using hev
    | ok v =>
      simp only [hvalue, Draft.result_make] at h hev
      simpa only [Draft.make, h, run_bind, run_ofExcept_error, List.append_nil] using hev

/-- Making a request is the same in every world with the same files. -/
theorem run_draw_congr {w' : World} (h : World.AgreeOn (fields.files kind) w w') :
    (draw w' raw kind overwrite fields grants).run replies =
      (draw w raw kind overwrite fields grants).run replies := by
  simp only [draw, run_bind, Fields.run_makeValue_congr rfl h.readAlike]

/-- A flaw shows alike in every world with the same files, and nothing but their reading is seen. -/
theorem Flaw.run_draw (h : Flaw w raw kind fields e) (overwrite : Bool)
    (grants : List Permission) :
    ∃ es, (∀ ev ∈ es, ∃ path ∈ fields.files kind, ev ∈ Fields.fileReading path) ∧
      ∀ (w' : World) (replies : List Reply), World.AgreeOn (fields.files kind) w w' →
        (draw w' raw kind overwrite fields grants).run replies = ⟨.error e, es, replies⟩ := by
  have hlocal := isLocal_draw w raw kind overwrite fields grants
  -- A local run does not depend on the replies, so what is seen may be taken from a run without any.
  have hresult : ((draw w raw kind overwrite fields grants).run []).result = .error e :=
    result_draw_eq_error_iff.2 h
  refine ⟨((draw w raw kind overwrite fields grants).run []).events, ?_, ?_⟩
  · intro ev hev
    exact exists_of_mem_events_draw hresult hev
  · intro w' replies hagree
    rw [run_draw_congr hagree, hlocal.run_eq [] replies, hresult]

end

/-- A credential that is to be stored has a flaw unless a request is made of it. The flaw is the
error of the command, and reading files is all that is seen of it, in every world with the same
files and for every configuration. A command has one request arrive at most as long as no reply sends
the client elsewhere, and then one more for each such reply, up to a bound; none arrives if the command
stops before, and nothing is printed if it fails. -/
theorem validation_precedes_contact (w : World) :
    (∀ raw kind overwrite fields grants (replies : List Reply),
      (∃ r, ((draw w raw kind overwrite fields grants).run replies).result = .ok r) ∨
        ∃ e, Flaw w raw kind fields e) ∧
      (∀ raw kind overwrite fields grants e, Flaw w raw kind fields e →
        ∃ es, (∀ ev ∈ es, ∃ path ∈ fields.files kind, ev ∈ Fields.fileReading path) ∧
          ∀ (w' : World) (i : Invocation) (replies : List Reply),
            World.AgreeOn (fields.files kind) w w' →
            i.command = .set raw kind overwrite fields grants →
            (i.execute w').run replies = ⟨.error e, es, replies⟩) ∧
      (∀ (i : Invocation) raw (replies : List Reply), i.command = .delete raw →
        (∀ c ∈ raw.toList, c = '/') →
        (i.execute w).run replies = ⟨.error (.validation .emptyName), [], replies⟩) ∧
      ∀ (i : Invocation) (replies : List Reply),
        ((∀ r ∈ replies.head?, r.redirect? = none) →
          (Program.arrivals ((i.execute w).run replies).events).length ≤ 1) ∧
        (Program.arrivals ((i.execute w).run replies).events).length ≤
          min Transport.maxRedirects (Http.sentElsewhere replies) + 1 ∧
        (i.IsStopped w replies → Program.arrivals ((i.execute w).run replies).events = []) ∧
        ∀ e, ((i.execute w).run replies).result = .error e →
          Program.printed ((i.execute w).run replies).events = "" := by
  refine ⟨?_, ?_, ?_, ?_⟩
  · intro raw kind overwrite fields grants replies
    cases h : ((draw w raw kind overwrite fields grants).run replies).result with
    | ok r => exact .inl ⟨r, rfl⟩
    | error e => exact .inr ⟨e, result_draw_eq_error_iff.1 h⟩
  · intro raw kind overwrite fields grants e hflaw
    obtain ⟨es, hes, hdraw⟩ := hflaw.run_draw overwrite grants
    refine ⟨es, hes, ?_⟩
    intro w' i replies hagree hi
    have hrun := hdraw w' replies hagree
    simp only [Invocation.execute, hi, set]
    rw [run_bind_of_error (congrArg Outcome.result hrun), hrun]
  · intro i raw replies hi hraw
    have herror : nameOf raw = .error (.validation .emptyName) := nameOf_eq_error_iff.2 ⟨hraw, rfl⟩
    simp only [Invocation.execute, hi, delete, herror]
    rfl
  · intro i replies
    rw [i.arrivals_execute]
    have hlength := (i.converses_inquire w replies).1
    refine ⟨?_, hlength, ?_, ?_⟩
    · intro hstays
      rwa [Http.sentElsewhere_eq_zero_iff.2 hstays, Nat.min_zero] at hlength
    · intro hstopped
      exact hstopped.arrivals_inquire
    · intro e he
      exact Invocation.printed_execute_of_error he

/-- Stores a key that is said to be in a file, with any configuration. -/
def storeMissingKey (config : Option String) : Invocation where
  verbose := false
  config := config
  command := .set "/k" .ssh false { publicKey := some "@/key", value := some "@/other" } []

theorem missingKey_flaw : Flaw Http.loopbackWorld "/k" .ssh
    { publicKey := some "@/key", value := some "@/other" } (.file .notFound) := by
  have hown : ({ publicKey := some "@/key", value := some "@/other" } : Fields).own .ssh =
      [] ++ some ("@" ++ "/key") :: [none] := rfl
  exact .faulty ⟨'k', by decide, by decide⟩ (.unreadable hown (by simp) rfl)

/-- The command that gets a credential by name. -/
def getK : Invocation := ⟨false, none, .get (.name "/k") false⟩

/-- A reply that tells the client to repeat its request elsewhere, and the answer that it gets there. -/
def elsewhereReplies : List Reply :=
  [.answer
      { status := 307, body := .text "", next := Http.Url.ofString? "http://[::1]:8080/elsewhere" },
    .answer { status := 200, body := .text "\x7b\"data\":[]\x7d" }]

/-- The key is missing wherever the file is missing, whatever else is there. A command that gets an
answer at once asks for no other. -/
theorem missingKey_refused_everywhere :
    (∃ es, ∀ config replies (look : String → Entry), look "/key" = .absent .notFound →
      ((storeMissingKey config).execute { Http.loopbackWorld with look }).run replies =
        ⟨.error (.file .notFound), es, replies⟩) ∧
      ((⟨false, none, .delete "//"⟩ : Invocation).execute Http.loopbackWorld).run [] =
        ⟨.error (.validation .emptyName), [], []⟩ ∧
      Program.printed (((⟨false, none, .delete "//"⟩ : Invocation).execute
        Http.loopbackWorld).run []).events = "" ∧
      Program.arrivals (((⟨false, none, .get (.id "") false⟩ : Invocation).execute
        Http.loopbackWorld).run []).events = [] ∧
      (Program.arrivals ((getK.execute (directedWorld "http://[::1]:8080")).run
        elsewhereReplies.tail).events).length ≤ 1 := by
  have hstays : ∀ r ∈ elsewhereReplies.tail.head?, r.redirect? = none := by
    rintro r ⟨rfl⟩
    rfl
  obtain ⟨-, hset, hdelete, hcontact⟩ := validation_precedes_contact Http.loopbackWorld
  have hdeleted := hdelete ⟨false, none, .delete "//"⟩ "//" [] rfl (by simp)
  refine ⟨?_, hdeleted, ?_, ?_, ?_⟩
  · obtain ⟨es, -, hrun⟩ := hset "/k" .ssh false _ [] _ missingKey_flaw
    refine ⟨es, fun config replies look hlook => ?_⟩
    refine hrun _ (storeMissingKey config) replies ?_ rfl
    intro path hpath
    have hfiles : path = "/key" := by simpa [Fields.files, Fields.own, Fields.filePath?] using hpath
    rw [hfiles]
    exact hlook
  · exact (hcontact _ []).2.2.2 _ (congrArg Outcome.result hdeleted)
  · exact (hcontact _ []).2.2.1 (.misidentified rfl rfl)
  · obtain ⟨-, -, -, hcontact⟩ := validation_precedes_contact (directedWorld "http://[::1]:8080")
    exact (hcontact getK elsewhereReplies.tail).1 hstays

/-- A client that is sent elsewhere asks there as well, so that two requests arrive for one command. -/
theorem elsewhere_asked_as_well :
    (Program.arrivals ((getK.execute (directedWorld "http://[::1]:8080")).run
        elsewhereReplies).events).map (fun a => (a.method, a.target)) =
          [(.get, "/api/v1/data?name=%2Fk"), (.get, "/elsewhere")] ∧
      ¬ (Program.arrivals ((getK.execute (directedWorld "http://[::1]:8080")).run
        elsewhereReplies).events).length ≤ 1 := by
  have harrivals : (Program.arrivals ((getK.execute (directedWorld "http://[::1]:8080")).run
      elsewhereReplies).events).map (fun a => (a.method, a.target)) =
        [(.get, "/api/v1/data?name=%2Fk"), (.get, "/elsewhere")] := by
    decide +kernel
  refine ⟨harrivals, ?_⟩
  have hlength := congrArg List.length harrivals
  rw [List.length_map, List.length_cons, List.length_singleton] at hlength
  omega

end CommandLine

end Credentials
