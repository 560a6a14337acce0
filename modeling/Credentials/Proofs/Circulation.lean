import Credentials.Drafting
import Credentials.Proofs.Document.Request
import Credentials.Proofs.Session

/-!
# Requests in circulation

Requests come about in three ways: by building a draft, however it was edited, by reading a document,
and by the command line. All of them end in `Draft.build`, which is where the rules of presence are
checked; names, key pairs and permissions are right from the moment they are made. Main statement:
`Request.Circulates.isWellFormed`.
-/

namespace Credentials

/-! ## Well-formed requests -/

/-- There is something to store, as far as the kind asks for it. -/
def Value.HasContent : Value → Prop
  | .value s => s ≠ ""
  | .json o => o.toList ≠ []
  | .password s => s ≠ ""
  | .ssh k => k.publicKey ≠ none ∨ k.privateKey ≠ none
  | .rsa k => k.publicKey ≠ none ∨ k.privateKey ≠ none
  | .user _ _ => True
  | .certificate _ => True

theorem KeyPair.isEmpty_iff {k : KeyPair} :
    k.isEmpty = true ↔ k.publicKey = none ∧ k.privateKey = none := by
  simp [isEmpty]

/-- A value breaks no rule exactly if it holds what its kind asks for. -/
theorem Value.fault?_eq_none_iff {v : Value} : v.fault? = none ↔ v.HasContent := by
  cases v with
  | value s => simp [fault?, HasContent]
  | json o => simp [fault?, HasContent]
  | password s => simp [fault?, HasContent]
  | user username password => simp [fault?, HasContent]
  | ssh k => simp [fault?, HasContent, KeyPair.isEmpty_iff, imp_iff_not_or]
  | rsa k => simp [fault?, HasContent, KeyPair.isEmpty_iff, imp_iff_not_or]
  | certificate c => simp [fault?, HasContent]

/-- The keys of a key pair. -/
def Value.keys : Value → List (Option String)
  | .ssh k => [k.publicKey, k.privateKey]
  | .rsa k => [k.publicKey, k.privateKey]
  | _ => []

/-- A key that is empty is not kept, so the keys that are there are not empty. -/
theorem Value.ne_empty_of_mem_keys {v : Value} {k : Option String} (h : k ∈ v.keys) :
    k ≠ some "" := by
  cases v with
  | ssh pair =>
    rcases List.mem_pair.1 h with rfl | rfl
    · exact pair.publicKey_ne
    · exact pair.privateKey_ne
  | rsa pair =>
    rcases List.mem_pair.1 h with rfl | rfl
    · exact pair.publicKey_ne
    · exact pair.privateKey_ne
  | value _ | json _ | password _ | user _ _ | certificate _ => cases h

/-- What holds of a request that may be sent. -/
structure Request.IsWellFormed (r : Request) : Prop where
  /-- The name has one leading slash and something behind it. -/
  name : ∃ c rest, r.name.text.toList = '/' :: c :: rest ∧ c ≠ '/'
  /-- The value breaks no rule of presence. -/
  valid : r.value.fault? = none
  content : r.value.HasContent
  keys : ∀ k ∈ r.value.keys, k ≠ some ""
  kind : r.kind = r.value.kind
  /-- The document says the kind of the value. -/
  tag : ∃ o, r.toJson = .object o ∧ o.get? "type" = some (.string r.value.kind.tag)
  operations : ∀ p ∈ r.permissions, p.operations.Nodup

/-- What is built has the parts of the draft, and its value was checked. -/
theorem Draft.parts_of_build {d : Draft} {r : Request} (h : d.build = .ok r) :
    d.name = some r.name ∧ d.value = some r.value ∧ r.value.fault? = none ∧
      r.overwrite = d.overwrite ∧ r.permissions = d.permissions := by
  unfold build at h
  split at h
  · cases h
  · rename_i name hname
    split at h
    · cases h
    · rename_i value hvalue
      split at h
      · cases h
      · rename_i hfault
        cases h
        exact ⟨hname, hvalue, hfault, rfl, rfl⟩

/-- Whatever is built is well-formed, whatever the draft was. -/
theorem Draft.isWellFormed_of_build {d : Draft} {r : Request} (h : d.build = .ok r) :
    r.IsWellFormed := by
  obtain ⟨-, -, hvalid, -, -⟩ := Draft.parts_of_build h
  obtain ⟨o, ho, hwrites⟩ := r.exists_toJson
  exact
    { name := r.name.canonical
      valid := hvalid
      content := Value.fault?_eq_none_iff.1 hvalid
      keys := fun k hk => Value.ne_empty_of_mem_keys hk
      kind := rfl
      tag := ⟨o, ho, hwrites.kind⟩
      operations := fun p _ => p.nodup }

/-! ## Drafts -/

namespace Desk

/-- What a step returns, apart from the log. -/
def resultOf (d : Desk) : DraftStep → Option (Except Error Request)
  | .build => some d.current.build
  | _ => none

/-- What steps return one after the other, apart from the log. -/
def results : Desk → List DraftStep → List (Option (Except Error Request))
  | _, [] => []
  | d, s :: ss => d.resultOf s :: (d.after s).results ss

theorem unlogged_outcome {σ : Type} (d : Desk) (s : DraftStep) :
    (d.outcome s : Run σ (Option (Except Error Request))).unlogged = pure (d.resultOf s) := by
  cases s with
  | build =>
    have hattempt : (d.current.make.attempt : Run σ (Except Error Request)).unlogged =
        d.current.make.unlogged.attempt := rfl
    rw [outcome, Run.unlogged_bind, hattempt, Draft.unlogged_make]
    cases hbuild : d.current.build <;> simp only [resultOf, hbuild] <;> rfl
  | _ => rfl

/-- Apart from the log, steps return what the drafts in their course build. -/
theorem unlogged_perform {σ : Type} (d : Desk) (steps : List DraftStep) :
    (d.perform steps : Run σ (List (Option (Except Error Request)))).unlogged =
      pure (d.results steps) := by
  induction steps generalizing d with
  | nil => rfl
  | cons s ss ih =>
    rw [perform, Run.unlogged_bind, unlogged_outcome, pure_bind, Run.unlogged_bind, ih, pure_bind]
    rfl

end Desk

/-- Whatever is returned in the course of steps was built from a draft. -/
theorem Desk.exists_build_of_mem_results {d : Desk} {steps : List DraftStep}
    {x : Except Error Request} (hx : some x ∈ d.results steps) : ∃ draft : Draft, x = draft.build := by
  induction steps generalizing d with
  | nil => cases hx
  | cons s ss ih =>
    rcases List.mem_cons.1 hx with hx | hx
    · cases s with
      | build =>
        cases hx
        exact ⟨d.current, rfl⟩
      | edit _ | save _ | restore _ => cases hx
    · exact ih hx

theorem Desk.result_perform {σ : Type} (d : Desk) (steps : List DraftStep) (s : σ) :
    ((d.perform steps).run s).result = .ok (d.results steps) := by
  rw [← Run.result_unlogged, Desk.unlogged_perform]
  rfl

/-! ## Ways to a request -/

/-- The requests that can come about. -/
inductive Request.Circulates (r : Request) : Prop
  /-- Built in the course of steps. -/
  | built {σ : Type} (steps : List DraftStep) (s : σ)
      (results : List (Option (Except Error Request)))
      (h : ((({} : Desk).perform steps).run s).result = .ok results)
      (hr : some (.ok r) ∈ results)
  /-- Read from a document. -/
  | decoded {σ : Type} (j : Json) (s : σ) (h : ((Request.decode j).run s).result = .ok r)
  /-- Described by the arguments of a command. -/
  | drawn (w : World) (raw : String) (kind : Kind) (overwrite : Bool) (fields : Fields)
      (grants : List Permission) (replies : List Http.Reply)
      (h : ((CommandLine.draw w raw kind overwrite fields grants).run replies).result = .ok r)

/-- Every way to a request ends in building a draft. -/
theorem Request.Circulates.exists_build {r : Request} (h : r.Circulates) :
    ∃ d : Draft, d.build = .ok r := by
  cases h with
  | built steps s results h hr =>
    rw [Desk.result_perform] at h
    cases h
    obtain ⟨d, hd⟩ := Desk.exists_build_of_mem_results hr
    exact ⟨d, hd.symm⟩
  | decoded j s h =>
    rw [← Run.result_unlogged, Request.unlogged_decode, Run.result_ofExcept] at h
    obtain ⟨d, -, hd⟩ := bind_eq_ok_iff.1 h
    exact ⟨d, hd⟩
  | drawn w raw kind overwrite fields grants replies h =>
    unfold CommandLine.draw at h
    obtain ⟨name, -, h⟩ := Run.result_bind_eq_ok_iff.1 h
    obtain ⟨value, -, h⟩ := Run.result_bind_eq_ok_iff.1 h
    rw [← Run.result_unlogged, Draft.unlogged_make, Run.result_ofExcept] at h
    exact ⟨_, h⟩

/-- However a request came about, it is well-formed. -/
theorem Request.Circulates.isWellFormed {r : Request} (h : r.Circulates) : r.IsWellFormed := by
  obtain ⟨d, hd⟩ := h.exists_build
  exact Draft.isWellFormed_of_build hd

/-- A request to store a private key. -/
def keyRequest : Request where
  name := ⟨"/key", 'k', ['e', 'y'], rfl, by decide⟩
  overwrite := false
  value := .ssh (.ofKeys (some "") (some "k"))
  permissions := [(Permission.ofActor ⟨.user, "u"⟩).allowAll [.read, .write, .read]]
  valid := rfl

/-- Steps that build it and go back to a draft that lacks its value. -/
def keySteps : List DraftStep :=
  [.edit (.name keyRequest.name), .edit (.permissions keyRequest.permissions), .save 0,
    .edit (.value keyRequest.value), .build, .restore 0, .build]

/-- A request that is built in the course of steps, with a failure behind it, is well-formed. -/
theorem keyRequest_isWellFormed : keyRequest.IsWellFormed := by
  have hresults : ({} : Desk).results keySteps =
      [none, none, none, none, some (.ok keyRequest), none,
        some (.error (.validation .missingValue))] := rfl
  have hbuilt : some (.ok keyRequest) ∈ ({} : Desk).results keySteps := by
    rw [hresults]
    simp
  exact Request.Circulates.isWellFormed (.built keySteps () _ (Desk.result_perform _ _ _) hbuilt)

end Credentials
