import Credentials.Proofs.Session

/-!
# Local runs

A run is local if it opens files and writes to the log and does nothing else: it looks at no reply
of the server, nothing of it arrives there and it prints nothing. Runs made of local runs are local
(`IsLocal.bind`), and in front of another run a local one settles whether the other takes place at
all and adds its own events to it (`IsLocal.run_bind`).
-/

namespace Credentials

/-- Whether an event is seen neither by the server nor on standard output. -/
def Event.IsLocal : Event → Prop
  | .logged _ => True
  | .opened _ => True
  | .sent _ => False
  | .arrived _ => False
  | .printed _ => False

namespace Run

variable {σ α β : Type}

theorem run_bind_of_ok {p : Run σ α} {f : α → Run σ β} {s : σ} {a : α}
    (h : (p.run s).result = .ok a) :
    (p >>= f).run s =
      ⟨((f a).run (p.run s).rest).result,
        (p.run s).events ++ ((f a).run (p.run s).rest).events,
        ((f a).run (p.run s).rest).rest⟩ := by
  rw [run_bind, h]

theorem run_bind_of_error {p : Run σ α} {f : α → Run σ β} {s : σ} {e : Error}
    (h : (p.run s).result = .error e) :
    (p >>= f).run s = ⟨.error e, (p.run s).events, (p.run s).rest⟩ := by
  rw [run_bind, h]

/-- The run opens files and writes to the log, and that is all. -/
def IsLocal (p : Run σ α) : Prop :=
  ∃ x es, (∀ e ∈ es, e.IsLocal) ∧ ∀ s, p.run s = ⟨x, es, s⟩

theorem isLocal_pure (a : α) : (pure a : Run σ α).IsLocal :=
  ⟨.ok a, [], nofun, fun _ => rfl⟩

theorem isLocal_fail (e : Error) : (fail e : Run σ α).IsLocal :=
  ⟨.error e, [], nofun, fun _ => rfl⟩

theorem isLocal_ofExcept (x : Except Error α) : (ofExcept x : Run σ α).IsLocal := by
  cases x with
  | error e => exact isLocal_fail e
  | ok a => exact isLocal_pure a

theorem isLocal_emit {e : Event} (h : e.IsLocal) : (emit e : Run σ Unit).IsLocal :=
  ⟨.ok (), [e], by simpa using h, fun _ => rfl⟩

theorem isLocal_opened (path : String) : (emit (.opened path) : Run σ Unit).IsLocal :=
  isLocal_emit trivial

theorem isLocal_log (area : Area) (level : Level) (message : String)
    (fields : List (String × String)) : (log area level message fields : Run σ Unit).IsLocal :=
  isLocal_emit trivial

/-- Local steps behind each other are local. -/
theorem IsLocal.bind {p : Run σ α} {f : α → Run σ β} (hp : p.IsLocal) (hf : ∀ a, (f a).IsLocal) :
    (p >>= f).IsLocal := by
  obtain ⟨x, es, hes, hp⟩ := hp
  cases x with
  | error e =>
    refine ⟨.error e, es, hes, fun s => ?_⟩
    rw [run_bind, hp]
  | ok a =>
    obtain ⟨y, es', hes', hf⟩ := hf a
    refine ⟨y, es ++ es', ?_, fun s => ?_⟩
    · intro e he
      exact (List.mem_append.1 he).elim (hes e) (hes' e)
    · rw [run_bind, hp]
      simp only [hf]

section

variable {p : Run σ α} (h : p.IsLocal)
include h

/-- A local run leaves the replies to others. -/
theorem IsLocal.rest (s : σ) : (p.run s).rest = s := by
  obtain ⟨x, es, -, hp⟩ := h
  rw [hp]

theorem IsLocal.isLocal_of_mem {s : σ} {e : Event} (he : e ∈ (p.run s).events) : e.IsLocal := by
  obtain ⟨x, es, hes, hp⟩ := h
  rw [hp] at he
  exact hes e he

/-- The supply makes no difference. -/
theorem IsLocal.run_eq (s s' : σ) : p.run s' = ⟨(p.run s).result, (p.run s).events, s'⟩ := by
  obtain ⟨x, es, -, hp⟩ := h
  rw [hp, hp]

/-- Nothing arrives in the course of a local run. -/
theorem IsLocal.arrivals (s : σ) : Program.arrivals (p.run s).events = [] := by
  refine List.filterMap_eq_nil_iff.2 fun e he => ?_
  cases e with
  | arrived a => exact (h.isLocal_of_mem he).elim
  | _ => rfl

/-- What follows a local run starts from the same replies. -/
theorem IsLocal.run_bind {f : α → Run σ β} {s : σ} {a : α} (ha : (p.run s).result = .ok a) :
    (p >>= f).run s =
      ⟨((f a).run s).result, (p.run s).events ++ ((f a).run s).events, ((f a).run s).rest⟩ := by
  rw [run_bind_of_ok ha, h.rest]

theorem IsLocal.result_bind {f : α → Run σ β} {s : σ} {a : α} (ha : (p.run s).result = .ok a) :
    ((p >>= f).run s).result = ((f a).run s).result := by
  rw [h.run_bind ha]

theorem IsLocal.result_bind_eq_ok_iff {f : α → Run σ β} {s : σ} {b : β} :
    ((p >>= f).run s).result = .ok b ↔
      ∃ a, (p.run s).result = .ok a ∧ ((f a).run s).result = .ok b := by
  rw [Run.result_bind_eq_ok_iff, h.rest]

theorem IsLocal.run_bind_error {f : α → Run σ β} {s : σ} {e : Error}
    (he : (p.run s).result = .error e) :
    (p >>= f).run s = ⟨.error e, (p.run s).events, s⟩ := by
  rw [run_bind_of_error he, h.rest]

end

end Run

/-! ## The world and documents -/

open Run

variable {σ : Type}

theorem World.isLocal_readContent (w : World) (path : String) :
    (w.readContent path : Run σ (Except FileError Content)).IsLocal :=
  (isLocal_opened path).bind fun _ => isLocal_pure _

theorem World.isLocal_readText (w : World) (path : String) :
    (w.readText path : Run σ (Except FileError String)).IsLocal :=
  (isLocal_opened path).bind fun _ => isLocal_pure _

theorem Draft.isLocal_make (d : Draft) : (d.make : Run σ Request).IsLocal :=
  (isLocal_ofExcept _).bind fun _ => (isLocal_log _ _ _ _).bind fun _ => isLocal_pure _

end Credentials
