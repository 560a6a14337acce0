import Credentials.Program
import Credentials.Proofs.Command.Arguments

/-!
# Arguments that matter

Whatever other arguments say, a value of a kind is made from the texts that the arguments of the kind
stand for (`MadeOf`), and it is not made when one of these cannot be read or when a text that should be
an object is none (`Unmade`). Both follow from `run_makeValue`, by which the texts are read first, in
order, and then put together. The files that are opened are those named by the arguments up to the first
that cannot be read (`opened_readings`). Main statement: `only_own_arguments_matter`.
-/

namespace Credentials.Fields

open Run World

variable {σ : Type} {w : World} {f : Fields} {kind : Kind}

/-! ## Values -/

/-- What is kept of a text that is given as a key: nothing if it is empty. -/
def keptKey (text : Option String) : Option String := if text = some "" then none else text

/-- The keys are those that the arguments stand for. -/
structure KeyedBy (w : World) (f : Fields) (k : KeyPair) : Prop where
  publicKey : ∃ t, Denotes w f.publicKey t ∧ k.publicKey = keptKey t
  privateKey : ∃ t, Denotes w f.privateKey t ∧ k.privateKey = keptKey t

/-- The certificate is what the arguments stand for, and nothing else is known about it. -/
structure CertifiedBy (w : World) (f : Fields) (c : Certificate) : Prop where
  certificate : Denotes w f.certificate c.certificate
  authority : Denotes w f.ca c.authority
  privateKey : Denotes w f.privateKey c.privateKey
  authorityName : Denotes w f.caName c.authorityName
  nothingElse : c.selfSigned = none ∧ c.generated = none ∧ c.transitional = none ∧ c.expiry = none

/-- The value holds what the arguments of its kind stand for. -/
inductive MadeOf (w : World) (f : Fields) : Value → Prop
  | value {t : Option String} (h : Denotes w f.value t) : MadeOf w f (.value (t.getD ""))
  | json {s : String} {o : Json.Object} (h : Denotes w f.value (some s))
      (ho : Json.read s = .ok (.object o)) : MadeOf w f (.json o)
  | emptyJson (h : f.value = none) : MadeOf w f (.json .empty)
  | password {t : Option String} (h : Denotes w f.password t) : MadeOf w f (.password (t.getD ""))
  | user {t u : Option String} (ht : Denotes w f.username t) (hu : Denotes w f.password u) :
      MadeOf w f (.user t u)
  | ssh {k : KeyPair} (h : KeyedBy w f k) : MadeOf w f (.ssh k)
  | rsa {k : KeyPair} (h : KeyedBy w f k) : MadeOf w f (.rsa k)
  | certificate {c : Certificate} (h : CertifiedBy w f c) : MadeOf w f (.certificate c)

theorem denotes_none_iff {argument : Option String} : Denotes w argument none ↔ argument = none := by
  constructor
  · intro h
    cases h
    rfl
  · rintro rfl
    exact .absent

theorem key_eq_keptKey (t : Option String) : KeyPair.key t = keptKey t := by
  cases t with
  | none => rfl
  | some s => by_cases hs : s = "" <;> simp [KeyPair.key, keptKey, hs]

/-- A pair of keys is made of two texts, either of which may be missing. -/
theorem keyedBy_iff {k : KeyPair} :
    KeyedBy w f k ↔
      ∃ t u, Denotes w f.publicKey t ∧ Denotes w f.privateKey u ∧ k = .ofKeys t u := by
  constructor
  · rintro ⟨⟨t, ht, hpublic⟩, ⟨u, hu, hprivate⟩⟩
    refine ⟨t, u, ht, hu, KeyPair.ext ?_ ?_⟩
    · rw [hpublic, ← key_eq_keptKey]
      rfl
    · rw [hprivate, ← key_eq_keptKey]
      rfl
  · rintro ⟨t, u, ht, hu, rfl⟩
    exact ⟨⟨t, ht, key_eq_keptKey t⟩, ⟨u, hu, key_eq_keptKey u⟩⟩

/-- Texts make a value of their kind out of what they stand for. -/
theorem madeOf_of_valueOf {ts : List (Option String)} {v : Value}
    (hts : (f.own kind).Forall₂ (Denotes w) ts) (hv : valueOf kind ts = .ok v) :
    v.kind = kind ∧ MadeOf w f v := by
  cases kind with
  | value =>
    obtain _ | ⟨ht, _ | _⟩ := hts
    cases hv
    exact ⟨rfl, .value ht⟩
  | password =>
    obtain _ | ⟨ht, _ | _⟩ := hts
    cases hv
    exact ⟨rfl, .password ht⟩
  | json =>
    obtain _ | ⟨ht, _ | _⟩ := hts
    obtain ⟨o, ho, rfl⟩ := map_eq_ok_iff.1 hv
    rw [jsonObject_eq_ok_iff] at ho
    refine ⟨rfl, ?_⟩
    rename_i t
    cases t with
    | some s => exact .json ht ho
    | none =>
      have hempty : Json.read "\x7b\x7d" = .ok (.object .empty) := rfl
      obtain rfl := Json.object_injective (Except.ok.inj (hempty.symm.trans ho))
      exact .emptyJson (denotes_none_iff.1 ht)
  | user =>
    obtain _ | ⟨ht, _ | ⟨hu, _ | _⟩⟩ := hts
    cases hv
    exact ⟨rfl, .user ht hu⟩
  | ssh =>
    obtain _ | ⟨ht, _ | ⟨hu, _ | _⟩⟩ := hts
    cases hv
    exact ⟨rfl, .ssh (keyedBy_iff.2 ⟨_, _, ht, hu, rfl⟩)⟩
  | rsa =>
    obtain _ | ⟨ht, _ | ⟨hu, _ | _⟩⟩ := hts
    cases hv
    exact ⟨rfl, .rsa (keyedBy_iff.2 ⟨_, _, ht, hu, rfl⟩)⟩
  | certificate =>
    obtain _ | ⟨hc, _ | ⟨ha, _ | ⟨hk, _ | ⟨hn, _ | _⟩⟩⟩⟩ := hts
    cases hv
    exact ⟨rfl, .certificate ⟨hc, ha, hk, hn, rfl, rfl, rfl, rfl⟩⟩

/-- What is made of arguments is made of their texts. -/
theorem MadeOf.exists_texts {v : Value} (h : MadeOf w f v) :
    ∃ ts, (f.own v.kind).Forall₂ (Denotes w) ts ∧ valueOf v.kind ts = .ok v := by
  cases h with
  | @value t h => exact ⟨[t], .cons h .nil, rfl⟩
  | @password t h => exact ⟨[t], .cons h .nil, rfl⟩
  | @json s o h ho =>
    refine ⟨[some s], .cons h .nil, map_eq_ok_iff.2 ⟨o, ?_, rfl⟩⟩
    exact jsonObject_eq_ok_iff.2 ho
  | emptyJson h => exact ⟨[none], .cons (denotes_none_iff.2 h) .nil, rfl⟩
  | @user t u ht hu => exact ⟨[t, u], .cons ht (.cons hu .nil), rfl⟩
  | ssh h =>
    obtain ⟨t, u, ht, hu, rfl⟩ := keyedBy_iff.1 h
    exact ⟨[t, u], .cons ht (.cons hu .nil), rfl⟩
  | rsa h =>
    obtain ⟨t, u, ht, hu, rfl⟩ := keyedBy_iff.1 h
    exact ⟨[t, u], .cons ht (.cons hu .nil), rfl⟩
  | @certificate c h =>
    obtain ⟨certificate, authority, privateKey, authorityName, _, _, _, _⟩ := c
    obtain ⟨hc, ha, hk, hn, rfl, rfl, rfl, rfl⟩ := h
    exact ⟨[certificate, authority, privateKey, authorityName],
      .cons hc (.cons ha (.cons hk (.cons hn .nil))), rfl⟩

/-- A value results exactly if it is made of the arguments of its kind. -/
theorem result_makeValue_eq_ok_iff {v : Value} {s : σ} :
    ((f.makeValue w kind).run s).result = .ok v ↔ v.kind = kind ∧ MadeOf w f v := by
  rw [run_makeValue, bind_eq_ok_iff]
  simp only [mapM_eq_ok_iff, textOf_eq_ok_iff]
  constructor
  · rintro ⟨ts, hts, hv⟩
    exact madeOf_of_valueOf hts hv
  · rintro ⟨rfl, h⟩
    exact h.exists_texts

/-! ## Errors -/

/-- Why no value is made: the first argument that cannot be read, or else a text that is no object. -/
inductive Unmade (w : World) (f : Fields) (kind : Kind) : Error → Prop
  | unreadable {before after : List (Option String)} {path : String} {fault : FileError}
      (hown : f.own kind = before ++ some ("@" ++ path) :: after)
      (hbefore : ∀ a ∈ before, ∃ t, Denotes w a t)
      (hfile : (w.look path).readText = .error fault) : Unmade w f kind (.file fault)
  | notJson {s : String} {x : Json.SyntaxError} (hkind : kind = .json)
      (h : Denotes w f.value (some s)) (hx : Json.read s = .error x) :
      Unmade w f kind (.codec (.notJson x))
  | notObject {s : String} {j : Json} (hkind : kind = .json) (h : Denotes w f.value (some s))
      (hj : Json.read s = .ok j) (hother : ∀ o, j ≠ .object o) :
      Unmade w f kind (.malformed .payloadNotObject)

/-- Texts of which no value is made are at fault in one of the ways that are told apart. -/
theorem unmade_of_valueOf {ts : List (Option String)} {e : Error}
    (hts : (f.own kind).Forall₂ (Denotes w) ts) (he : valueOf kind ts = .error e) :
    Unmade w f kind e := by
  cases kind with
  | json =>
    obtain _ | ⟨ht, _ | _⟩ := hts
    have hobject := map_eq_error_iff.1 he
    rename_i t
    cases t with
    | none => cases hobject
    | some s =>
      rcases jsonObject_eq_error_iff.1 hobject with ⟨x, hx, rfl⟩ | ⟨j, hj, hother, rfl⟩
      · exact .notJson rfl ht hx
      · exact .notObject rfl ht hj hother
  | value | password | user | ssh | rsa | certificate => cases he

/-- An error results exactly if the arguments of the kind are at fault in that way. -/
theorem result_makeValue_eq_error_iff {e : Error} {s : σ} :
    ((f.makeValue w kind).run s).result = .error e ↔ Unmade w f kind e := by
  rw [run_makeValue, bind_eq_error_iff]
  simp only [mapM_eq_error_iff, mapM_eq_ok_iff, textOf_eq_ok_iff, textOf_eq_error_iff]
  constructor
  · rintro (⟨before, a, after, hown, hbefore, path, fault, rfl, hfile, rfl⟩ | ⟨ts, hts, he⟩)
    · exact .unreadable hown hbefore hfile
    · exact unmade_of_valueOf hts he
  · intro h
    cases h with
    | unreadable hown hbefore hfile =>
      exact .inl ⟨_, _, _, hown, hbefore, _, _, rfl, hfile, rfl⟩
    | @notJson s x hkind ht hx =>
      subst hkind
      refine .inr ⟨[some s], .cons ht .nil, map_eq_error_iff.2 ?_⟩
      exact jsonObject_eq_error_iff.2 (.inl ⟨x, hx, rfl⟩)
    | @notObject s j hkind ht hj hother =>
      subst hkind
      refine .inr ⟨[some s], .cons ht .nil, map_eq_error_iff.2 ?_⟩
      exact jsonObject_eq_error_iff.2 (.inr ⟨j, hj, hother, rfl⟩)

/-! ## Files -/

theorem opened_append (es es' : List Event) :
    Program.opened (es ++ es') = Program.opened es ++ Program.opened es' := List.filterMap_append

theorem opened_reading (a : Option String) :
    Program.opened (reading a) = (filePath? a).toList := by
  unfold reading
  cases filePath? a <;> rfl

/-- As long as arguments can be read, the files they name are opened in order; what comes after is opened
like what comes first. -/
theorem opened_readings {before : List (Option String)} (rest : List (Option String))
    (hbefore : ∀ a ∈ before, ∃ t, Denotes w a t) :
    Program.opened (readings w (before ++ rest)) =
      before.filterMap filePath? ++ Program.opened (readings w rest) := by
  induction before with
  | nil => rfl
  | cons a before ih =>
    obtain ⟨⟨t, ht⟩, hbefore⟩ := List.forall_mem_cons.1 hbefore
    have hread : (textOf w a).isOk = true := by
      rw [textOf_eq_ok_iff.2 ht]
      rfl
    rw [List.cons_append, readings, if_pos hread, opened_append, opened_reading, ih hbefore,
      ← List.append_assoc]
    cases h : filePath? a <;> simp [h]

/-- No file is opened behind one that cannot be read. -/
theorem opened_readings_unreadable {rest : List (Option String)} {path : String} {fault : FileError}
    (hfile : (w.look path).readText = .error fault) :
    Program.opened (readings w (some ("@" ++ path) :: rest)) = [path] := by
  have hunread : textOf w (some ("@" ++ path)) = .error (.file fault) :=
    textOf_eq_error_iff.2 ⟨path, fault, rfl, hfile, rfl⟩
  rw [readings, hunread, opened_append, opened_reading, filePath?_eq_some_iff.2 rfl]
  rfl

/-- A value is made from the arguments of its kind and the texts of the files they name. It is of that
kind and holds what these arguments stand for, unless one of them cannot be read, of which the first
decides, or a text that should be an object is none. The files are opened in the order of the arguments,
up to the first that cannot be read. -/
theorem only_own_arguments_matter (kind : Kind) :
    (∀ (f f' : Fields) (w w' : World) (s : σ), f'.own kind = f.own kind →
      ReadAlike (f.files kind) w w' →
        (f'.makeValue w' kind).run s = (f.makeValue w kind).run s) ∧
      (∀ (f : Fields) (w : World) (s : σ) (v : Value),
        ((f.makeValue w kind).run s).result = .ok v ↔ v.kind = kind ∧ MadeOf w f v) ∧
      (∀ (f : Fields) (w : World) (s : σ) (e : Error),
        ((f.makeValue w kind).run s).result = .error e ↔ Unmade w f kind e) ∧
      (∀ (f : Fields) (w : World) (s : σ), (∀ a ∈ f.own kind, ∃ t, Denotes w a t) →
        Program.opened ((f.makeValue w kind).run s).events = f.files kind) ∧
      ∀ (f : Fields) (w : World) (s : σ) before path after fault,
        f.own kind = before ++ some ("@" ++ path) :: after →
          (∀ a ∈ before, ∃ t, Denotes w a t) → (w.look path).readText = .error fault →
            Program.opened ((f.makeValue w kind).run s).events =
              before.filterMap filePath? ++ [path] := by
  refine ⟨?_, ?_, ?_, ?_, ?_⟩
  · intro f f' w w' s hown hfiles
    exact run_makeValue_congr hown hfiles s
  · intro f w s v
    exact result_makeValue_eq_ok_iff
  · intro f w s e
    exact result_makeValue_eq_error_iff
  · intro f w s hreadable
    have hopened := opened_readings [] hreadable
    rw [List.append_nil] at hopened
    rw [run_makeValue, hopened]
    exact List.append_nil _
  · intro f w s before path after fault hown hbefore hfile
    rw [run_makeValue, hown, opened_readings _ hbefore, opened_readings_unreadable hfile]

def keyWorld : World :=
  { World.empty with
    look := fun path => if path = "/key" then .file (.text "AAAA") else .absent .notFound }

def keyArguments : Fields := { publicKey := some "@/key" }

/-- Names the file with the key, and a lost one where it does not matter for keys. -/
def strayArguments : Fields := { keyArguments with value := some "@/lost", caName := some "@/lost" }

/-- Lost files that only stray arguments name are neither opened nor missed. -/
theorem strayArguments_do_not_matter :
    ((strayArguments.makeValue keyWorld .ssh).run () = (keyArguments.makeValue keyWorld .ssh).run () ∧
      MadeOf keyWorld strayArguments (.ssh (.ofKeys (some "AAAA") none)) ∧
      Program.opened ((strayArguments.makeValue keyWorld .ssh).run ()).events = ["/key"]) ∧
      ((strayArguments.makeValue World.empty .ssh).run ()).result = .error (.file .notFound) ∧
      Program.opened ((strayArguments.makeValue World.empty .ssh).run ()).events = ["/key"] := by
  obtain ⟨hcongr, hmade, hunmade, hopened, hstopped⟩ := @only_own_arguments_matter Unit .ssh
  have hkey : Denotes keyWorld (some ("@" ++ "/key")) (some "AAAA") := .file rfl
  have hown : strayArguments.own .ssh = [] ++ some ("@" ++ "/key") :: [none] := rfl
  have hresult : ((strayArguments.makeValue keyWorld .ssh).run ()).result =
      .ok (.ssh (.ofKeys (some "AAAA") none)) := by
    refine (hmade _ _ _ _).2 ⟨rfl, .ssh (keyedBy_iff.2 ⟨_, _, hkey, .absent, rfl⟩)⟩
  refine ⟨⟨hcongr _ _ _ _ _ rfl fun _ _ => rfl, ((hmade _ _ _ _).1 hresult).2, ?_⟩, ?_, ?_⟩
  · refine hopened _ _ _ ?_
    rintro a (_ | ⟨_, _ | ⟨_, ⟨⟩⟩⟩)
    · exact ⟨_, hkey⟩
    · exact ⟨_, .absent⟩
  · exact (hunmade _ _ _ _).2 (.unreadable hown nofun rfl)
  · exact hstopped _ _ _ _ _ _ .notFound hown nofun rfl

end Credentials.Fields
