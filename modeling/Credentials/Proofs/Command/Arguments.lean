import Credentials.Command.Fields
import Credentials.Proofs.Document.Member
import Credentials.Proofs.Outcome
import Credentials.Proofs.Session.Local

/-!
# Reading arguments

To each kind belong a few arguments, which are read in order (`Fields.own`). A value is made from their
texts alone, so making one is reading them and then a function of what was read (`makeValue_eq`). What
is seen of it is which files are read, up to the first that cannot be (`run_makeValue`), and neither
other arguments nor worlds in which these files read alike make a difference (`run_makeValue_congr`).
-/

namespace Credentials

/-- Two worlds have the same at some paths. -/
def World.AgreeOn (paths : List String) (w w' : World) : Prop :=
  ∀ path ∈ paths, w'.look path = w.look path

/-- The same text, or the same fault, is read at some paths of two worlds. -/
def World.ReadAlike (paths : List String) (w w' : World) : Prop :=
  ∀ path ∈ paths, (w'.look path).readText = (w.look path).readText

/-- Worlds that agree on files read them alike. -/
theorem World.AgreeOn.readAlike {paths : List String} {w w' : World} (h : AgreeOn paths w w') :
    ReadAlike paths w w' :=
  fun path hpath => congrArg Entry.readText (h path hpath)

namespace Fields

open Run World

variable {σ : Type}

/-! ## One argument -/

/-- What an argument stands for: itself, or the text of a file. -/
inductive Denotes (w : World) : Option String → Option String → Prop
  | absent : Denotes w none none
  | literal {s : String} (h : ∀ path, s ≠ "@" ++ path) : Denotes w (some s) (some s)
  | file {path text : String} (h : (w.look path).readText = .ok text) :
      Denotes w (some ("@" ++ path)) (some text)

/-- The path of the file that an argument stands for. -/
def filePath? (argument : Option String) : Option String :=
  argument.bind fun s =>
    match s.toList with
    | '@' :: path => some (String.ofList path)
    | _ => none

/-- The text that an argument stands for in a world. -/
def textOf (w : World) (argument : Option String) : Except Error (Option String) :=
  match filePath? argument with
  | none => .ok argument
  | some path =>
    match (w.look path).readText with
    | .ok text => .ok (some text)
    | .error e => .error (.file e)

theorem toList_eq_at_iff {s : String} {path : List Char} :
    s.toList = '@' :: path ↔ s = "@" ++ String.ofList path := by
  simp [← String.toList_inj]

theorem at_append_inj {path path' : String} : "@" ++ path = "@" ++ path' ↔ path = path' := by
  rw [← String.toList_inj, String.toList_append, String.toList_append,
    List.append_cancel_left_eq, String.toList_inj]

/-- An argument names a file if it begins with an at sign; the rest of it is the path. -/
theorem filePath?_eq_some_iff {argument : Option String} {path : String} :
    filePath? argument = some path ↔ argument = some ("@" ++ path) := by
  cases argument with
  | none => simp [filePath?]
  | some s =>
    unfold filePath?
    rw [Option.bind_some, Option.some.injEq]
    split
    · rename_i rest heq
      rw [toList_eq_at_iff.1 heq, at_append_inj, Option.some.injEq]
    · rename_i hother
      refine iff_of_false nofun fun h => hother path.toList (toList_eq_at_iff.2 ?_)
      rw [h, String.ofList_toList]

theorem textOf_file (w : World) (path : String) :
    textOf w (some ("@" ++ path)) =
      match (w.look path).readText with
      | .ok text => .ok (some text)
      | .error e => .error (.file e) := by
  rw [textOf, filePath?_eq_some_iff.2 rfl]

/-- An argument that names no file stands for itself. -/
theorem textOf_literal (w : World) {argument : Option String}
    (h : ∀ path, argument ≠ some ("@" ++ path)) : textOf w argument = .ok argument := by
  unfold textOf
  cases hfile : filePath? argument with
  | none => rfl
  | some path => exact absurd (filePath?_eq_some_iff.1 hfile) (h path)

/-- The text of an argument is the one that it denotes. -/
theorem textOf_eq_ok_iff {w : World} {argument text : Option String} :
    textOf w argument = .ok text ↔ Denotes w argument text := by
  constructor
  · intro h
    by_cases hfile : ∃ path, argument = some ("@" ++ path)
    · obtain ⟨path, rfl⟩ := hfile
      rw [textOf_file] at h
      split at h
      · rename_i t hread
        cases h
        exact .file hread
      · cases h
    · rw [not_exists] at hfile
      rw [textOf_literal w hfile] at h
      cases h
      cases argument with
      | none => exact .absent
      | some s => exact .literal fun path hs => hfile path (congrArg some hs)
  · intro h
    cases h with
    | absent => rfl
    | literal h => exact textOf_literal w fun path hs => h path (Option.some.inj hs)
    | file h => rw [textOf_file, h]

/-- An argument has no text only if it names a file that cannot be read. -/
theorem textOf_eq_error_iff {w : World} {argument : Option String} {e : Error} :
    textOf w argument = .error e ↔
      ∃ path fault, argument = some ("@" ++ path) ∧ (w.look path).readText = .error fault ∧
        e = .file fault := by
  constructor
  · intro h
    by_cases hfile : ∃ path, argument = some ("@" ++ path)
    · obtain ⟨path, rfl⟩ := hfile
      rw [textOf_file] at h
      split at h
      · cases h
      · rename_i fault hread
        cases h
        exact ⟨path, fault, rfl, hread, rfl⟩
    · rw [not_exists] at hfile
      rw [textOf_literal w hfile] at h
      cases h
  · rintro ⟨path, fault, rfl, hread, rfl⟩
    rw [textOf_file, hread]

/-- The line about a file that is read for an argument. -/
def fileLine (path : String) : LogLine :=
  ⟨.arguments, .debug, "reading argument from file", [("path", path)]⟩

/-- What is seen when a file is read for an argument. -/
def fileReading (path : String) : List Event := [.logged (fileLine path), .opened path]

/-- What is seen when an argument is read. -/
def reading (argument : Option String) : List Event := (filePath? argument).elim [] fileReading

theorem run_argumentText_file {w : World} {a path : String} (h : filePath? (some a) = some path)
    (s : σ) :
    (argumentText w a).run s = ⟨(w.look path).readText.mapError .file, fileReading path, s⟩ := by
  have htext : a.toList = '@' :: path.toList := by
    rw [toList_eq_at_iff, String.ofList_toList]
    exact Option.some.inj (filePath?_eq_some_iff.1 h)
  unfold argumentText
  rw [htext]
  simp only [run_bind, Run.log, run_emit, World.readText, run_pure, String.ofList_toList]
  cases (w.look path).readText <;> rfl

theorem argumentText_literal {w : World} {a : String} (h : filePath? (some a) = none) :
    (argumentText w a : Run σ String) = pure a := by
  unfold argumentText
  split
  · rename_i path heq
    rw [filePath?_eq_some_iff.2 (congrArg some (toList_eq_at_iff.1 heq))] at h
    cases h
  · rfl

/-- Taking the text of an argument reads the file that it names and does nothing else. -/
theorem run_text? (w : World) (argument : Option String) (s : σ) :
    (text? w argument).run s = ⟨textOf w argument, reading argument, s⟩ := by
  cases argument with
  | none => rfl
  | some a =>
    unfold text? textOf reading
    cases h : filePath? (some a) with
    | none =>
      simp only [argumentText_literal h]
      rfl
    | some path =>
      simp only [run_bind, run_argumentText_file h, Option.elim_some]
      cases (w.look path).readText with
      | error e => rfl
      | ok t => rfl

/-! ## The arguments of a kind -/

/-- The arguments that belong to a kind, in the order in which they are read. -/
def own (f : Fields) : Kind → List (Option String)
  | .value | .json => [f.value]
  | .password => [f.password]
  | .user => [f.username, f.password]
  | .ssh | .rsa => [f.publicKey, f.privateKey]
  | .certificate => [f.certificate, f.ca, f.privateKey, f.caName]

/-- Reads arguments one after the other. -/
def texts (w : World) : List (Option String) → Run σ (List (Option String))
  | [] => return []
  | a :: rest => do
    let t ← text? w a
    let ts ← texts w rest
    return t :: ts

/-- The value of a kind that texts describe, one text for each argument of the kind. -/
def valueOf (kind : Kind) (ts : List (Option String)) : Except Error Value :=
  let text (i : Nat) := ts.getD i none
  match kind with
  | .value => .ok (.value ((text 0).getD ""))
  | .password => .ok (.password ((text 0).getD ""))
  | .json => (jsonObject ((text 0).getD "\x7b\x7d")).map .json
  | .user => .ok (.user (text 0) (text 1))
  | .ssh => .ok (.ssh (.ofKeys (text 0) (text 1)))
  | .rsa => .ok (.rsa (.ofKeys (text 0) (text 1)))
  | .certificate =>
    .ok (.certificate
      { certificate := text 0, authority := text 1, privateKey := text 2, authorityName := text 3 })

/-- A value is made of the texts of the arguments of its kind. -/
theorem makeValue_eq (w : World) (kind : Kind) (f : Fields) :
    (f.makeValue w kind : Run σ Value) =
      texts w (f.own kind) >>= fun ts => ofExcept (valueOf kind ts) := by
  cases kind
  case json =>
    simp only [makeValue, own, texts, bind_assoc, pure_bind]
    refine congrArg _ (funext fun t => ?_)
    change _ = (ofExcept ((jsonObject (t.getD "\x7b\x7d")).map Value.json) : Run σ Value)
    cases jsonObject (t.getD "\x7b\x7d") <;> rfl
  all_goals
    simp only [makeValue, own, texts, bind_assoc, pure_bind]
    rfl

/-- What is seen when arguments are read, up to the first that cannot be. -/
def readings (w : World) : List (Option String) → List Event
  | [] => []
  | a :: rest => reading a ++ if (textOf w a).isOk then readings w rest else []

/-- The texts of arguments are taken in order, up to the first that has none. -/
theorem run_texts (w : World) (arguments : List (Option String)) (s : σ) :
    (texts w arguments).run s = ⟨arguments.mapM (textOf w), readings w arguments, s⟩ := by
  induction arguments with
  | nil => rfl
  | cons a rest ih =>
    rw [texts, run_bind, run_text?, readings, List.mapM_cons]
    cases textOf w a with
    | error e => simp [Except.isOk, Except.toBool, bind, Except.bind]
    | ok t =>
      rw [ok_bind]
      simp only [run_bind, ih, run_pure, Except.isOk, Except.toBool, if_true]
      cases rest.mapM (textOf w) <;> simp [bind, Except.bind, pure, Except.pure]

/-- Making a value reads the files of its own arguments, whatever the other arguments are. -/
theorem run_makeValue (w : World) (kind : Kind) (f : Fields) (s : σ) :
    (f.makeValue w kind).run s =
      ⟨(f.own kind).mapM (textOf w) >>= valueOf kind, readings w (f.own kind), s⟩ := by
  rw [makeValue_eq, run_bind, run_texts]
  cases (f.own kind).mapM (textOf w) with
  | error e => rfl
  | ok ts => cases h : valueOf kind ts <;> simp [h, bind, Except.bind]

/-! ## Texts of objects -/

theorem jsonObject_eq_ok_iff {s : String} {o : Json.Object} :
    jsonObject s = .ok o ↔ Json.read s = .ok (.object o) := by
  unfold jsonObject
  cases Json.read s with
  | error e => simp
  | ok j =>
    rw [Except.ok.injEq, ← Json.object?_eq_some_iff]
    cases hj : j.object? <;> simp [hj]

/-- A text that is no JSON object is refused for its syntax, or else for what it is. -/
theorem jsonObject_eq_error_iff {s : String} {e : Error} :
    jsonObject s = .error e ↔
      (∃ x, Json.read s = .error x ∧ e = .codec (.notJson x)) ∨
        ∃ j, Json.read s = .ok j ∧ (∀ o, j ≠ .object o) ∧ e = .malformed .payloadNotObject := by
  unfold jsonObject
  simp only [Ne, ← Json.object?_eq_some_iff]
  cases Json.read s with
  | error x => simp [eq_comm]
  | ok j => cases hj : j.object? <;> simp [hj, eq_comm]

/-! ## Files -/

/-- The files that are named by the arguments of a kind. -/
def files (f : Fields) (kind : Kind) : List String := (f.own kind).filterMap filePath?

theorem textOf_congr {w w' : World} {argument : Option String}
    (h : ∀ path, filePath? argument = some path →
      (w'.look path).readText = (w.look path).readText) :
    textOf w' argument = textOf w argument := by
  unfold textOf
  cases hfile : filePath? argument with
  | none => rfl
  | some path => simp only [h path hfile]

/-- Where the files that are named read alike, the texts are taken alike. -/
theorem run_texts_congr {w w' : World} {arguments : List (Option String)}
    (h : ReadAlike (arguments.filterMap filePath?) w w') (s : σ) :
    (texts w' arguments).run s = (texts w arguments).run s := by
  induction arguments with
  | nil => rfl
  | cons a rest ih =>
    have ha : textOf w' a = textOf w a := by
      refine textOf_congr fun path hpath => h path ?_
      exact List.mem_filterMap.2 ⟨a, List.mem_cons_self, hpath⟩
    have hrest : (texts w' rest).run s = (texts w rest).run s := by
      refine ih fun path hpath => h path ?_
      obtain ⟨b, hb, hpath⟩ := List.mem_filterMap.1 hpath
      exact List.mem_filterMap.2 ⟨b, List.mem_cons_of_mem a hb, hpath⟩
    simp only [texts, run_bind, run_text?, ha, hrest]

/-- A value depends on the arguments of its kind and the texts of the files they name, and on nothing
else. -/
theorem run_makeValue_congr {w w' : World} {kind : Kind} {f f' : Fields}
    (hown : f'.own kind = f.own kind) (h : ReadAlike (f.files kind) w w') (s : σ) :
    (f'.makeValue w' kind).run s = (f.makeValue w kind).run s := by
  rw [makeValue_eq, makeValue_eq, hown, run_bind, run_bind, run_texts_congr h]

/-- Nothing is seen of reading arguments but that the files they name are read. -/
theorem exists_of_mem_readings {w : World} {arguments : List (Option String)} {e : Event}
    (h : e ∈ readings w arguments) :
    ∃ path ∈ arguments.filterMap filePath?, e ∈ fileReading path := by
  induction arguments with
  | nil => cases h
  | cons a rest ih =>
    rw [readings, List.mem_append] at h
    rcases h with h | h
    · unfold reading at h
      cases hfile : filePath? a with
      | none =>
        rw [hfile] at h
        cases h
      | some path =>
        rw [hfile] at h
        exact ⟨path, List.mem_filterMap.2 ⟨a, List.mem_cons_self, hfile⟩, h⟩
    · split at h
      · obtain ⟨path, hpath, he⟩ := ih h
        obtain ⟨b, hb, hpath⟩ := List.mem_filterMap.1 hpath
        exact ⟨path, List.mem_filterMap.2 ⟨b, List.mem_cons_of_mem a hb, hpath⟩, he⟩
      · cases h

theorem isLocal_of_mem_fileReading {path : String} {e : Event} (h : e ∈ fileReading path) :
    e.IsLocal := by
  rcases List.mem_pair.1 h with rfl | rfl <;> trivial

/-- Making a value asks no server and prints nothing. -/
theorem isLocal_makeValue (w : World) (kind : Kind) (f : Fields) :
    (f.makeValue w kind : Run σ Value).IsLocal := by
  refine ⟨_, _, ?_, run_makeValue w kind f⟩
  intro e he
  obtain ⟨path, -, he⟩ := exists_of_mem_readings he
  exact isLocal_of_mem_fileReading he

end Fields

end Credentials
