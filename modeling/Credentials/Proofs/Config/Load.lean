import Credentials.Proofs.Session
import Credentials.Proofs.Session.Local

/-!
# Loading the configuration

Loading takes what is stored, writes to the log if the environment overrides the URL, and then checks
what comes out (`Config.load_eq`). It is a local run: whatever the server would reply, loading does not
ask for it.
-/

namespace Credentials.Config

open Run

variable {σ : Type}

/-- Tells the log that the environment overrides the URL, if it does. -/
def announce (w : World) : Run σ Unit :=
  if (w.environment urlVariable).isSome then
    .log .configuration .debug "server url overridden from environment" []
  else pure ()

/-- A configuration, if nothing is wrong with its URL. -/
def checked (c : Config) : Except Error Config :=
  if c.url = "" then .error (.config .notFound)
  else
    match c.fault? with
    | some e => .error (.config e)
    | none => .ok c

/-- Loading takes what is stored, overrides it and checks it, in this order. -/
theorem load_eq (w : World) (explicit : Option String) :
    (load w explicit : Run σ Config) =
      stored w explicit >>= fun c => announce w >>= fun _ => ofExcept (checked (override w c)) := by
  have hchecked (c : Config) : (ofExcept (checked c) : Run σ Config) =
      if c.url = "" then .fail (.config .notFound)
      else
        match c.fault? with
        | some e => .fail (.config e)
        | none => pure c := by
    unfold checked
    split
    · rfl
    · split <;> rfl
  simp only [hchecked]
  unfold load announce
  refine congrArg _ (funext fun c => ?_)
  split <;> rfl

/-- The check passes a configuration or refuses it, but never changes it. -/
theorem checked_eq_ok_iff {c d : Config} : checked c = .ok d ↔ c.fault? = none ∧ d = c := by
  unfold checked
  by_cases hempty : c.url = ""
  · have hfault : c.fault? = some .missingUrl := by
      rw [fault?, hempty]
      rfl
    simp [hempty, hfault]
  · cases c.fault? with
    | some e => simp [hempty]
    | none => simp [hempty, eq_comm]

theorem isLocal_ofFile (w : World) (path : String) : (ofFile w path : Run σ Config).IsLocal := by
  refine (isLocal_log _ _ _ _).bind fun _ => (w.isLocal_readText path).bind fun text => ?_
  cases text with
  | error e => exact isLocal_fail _
  | ok text =>
    simp only
    cases (Toml.read? text).bind ofToml? with
    | none => exact isLocal_fail _
    | some c => exact (isLocal_log _ _ _ _).bind fun _ => isLocal_pure c

theorem isLocal_stored (w : World) (explicit : Option String) :
    (stored w explicit : Run σ Config).IsLocal := by
  unfold stored
  cases locate w explicit with
  | some path => exact isLocal_ofFile w path
  | none =>
    simp only
    split
    · exact isLocal_fail _
    · exact isLocal_pure _

theorem isLocal_announce (w : World) : (announce w : Run σ Unit).IsLocal := by
  unfold announce
  split
  · exact isLocal_log _ _ _ _
  · exact isLocal_pure ()

/-- Loading a configuration asks no server. -/
theorem isLocal_load (w : World) (explicit : Option String) :
    (load w explicit : Run σ Config).IsLocal := by
  rw [load_eq]
  exact (isLocal_stored w explicit).bind fun c => (isLocal_announce w).bind fun _ =>
    isLocal_ofExcept _

theorem result_announce (w : World) (s : σ) : ((announce w).run s).result = .ok () := by
  unfold announce
  split <;> rfl

/-- What is loaded is what is stored with what the environment overrides, and passes the check. -/
theorem result_load_eq_ok_iff {w : World} {explicit : Option String} {s : σ} {c : Config} :
    ((load w explicit).run s).result = .ok c ↔
      ∃ d, ((stored w explicit).run s).result = .ok d ∧ c = override w d ∧ c.fault? = none := by
  rw [load_eq, result_bind_eq_ok_iff]
  refine exists_congr fun d => and_congr_right fun _ => ?_
  rw [run_bind_of_ok (result_announce w _), result_ofExcept, checked_eq_ok_iff]
  constructor
  · rintro ⟨hfault, rfl⟩
    exact ⟨rfl, hfault⟩
  · rintro ⟨rfl, hfault⟩
    exact ⟨hfault, rfl⟩

end Credentials.Config
