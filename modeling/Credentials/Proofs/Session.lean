import Credentials.Program

/-!
# Runs apart from the log

`Run.unlogged` is a run without the lines that it writes to the log. It respects sequencing
(`unlogged_bind`) and turns writing a line into doing nothing (`unlogged_log`), so that a run of many
steps is equal, apart from the log, to a short one. What a run results in, what it leaves of the
supply and what arrives at the server stay as they are.
-/

namespace Credentials

/-- Whether an event is a line of the log. -/
def Event.isLogged : Event → Bool
  | .logged _ => true
  | _ => false

namespace Run

variable {σ α β : Type}

/-- The run without the lines that it writes to the log. -/
def unlogged (p : Run σ α) : Run σ α :=
  ⟨fun s => { p.run s with events := (p.run s).events.filter fun e => !e.isLogged }⟩

@[simp] theorem result_unlogged (p : Run σ α) (s : σ) :
    (p.unlogged.run s).result = (p.run s).result := rfl

@[simp] theorem rest_unlogged (p : Run σ α) (s : σ) :
    (p.unlogged.run s).rest = (p.run s).rest := rfl

@[simp] theorem arrivals_unlogged (p : Run σ α) (s : σ) :
    Program.arrivals (p.unlogged.run s).events = Program.arrivals (p.run s).events := by
  refine List.filterMap_filter.trans (congrArg (List.filterMap · _) (funext fun e => ?_))
  cases e <;> rfl

@[simp] theorem unlogged_pure (a : α) : (pure a : Run σ α).unlogged = pure a := rfl

@[simp] theorem unlogged_ofExcept (x : Except Error α) :
    (ofExcept x : Run σ α).unlogged = ofExcept x := by
  cases x <;> rfl

@[simp] theorem unlogged_log (area : Area) (level : Level) (message : String)
    (fields : List (String × String)) :
    (log area level message fields : Run σ Unit).unlogged = pure () := rfl

/-- Leaving out the log may be done step by step. -/
@[simp] theorem unlogged_bind (p : Run σ α) (f : α → Run σ β) :
    (p >>= f).unlogged = p.unlogged >>= fun a => (f a).unlogged := by
  refine ext (funext fun s => ?_)
  have hrun (q : Run σ β) : q.unlogged.run s = { q.run s with
      events := (q.run s).events.filter fun e => !e.isLogged } := rfl
  rw [hrun, run_bind, run_bind, result_unlogged, rest_unlogged]
  cases (p.run s).result with
  | error e => rfl
  | ok a =>
    simp only [List.filter_append]
    rfl

/-! ## Steps without events -/

theorem ofExcept_bind (x : Except Error α) (f : α → Except Error β) :
    (ofExcept x >>= fun a => (ofExcept (f a) : Run σ β)) = ofExcept (x >>= f) := by
  cases x <;> rfl

theorem ofExcept_ok (a : α) : (ofExcept (.ok a) : Run σ α) = pure a := rfl

@[simp] theorem result_ofExcept (x : Except Error α) (s : σ) :
    ((ofExcept x).run s).result = x := by
  cases x <;> rfl

/-- Two steps result in something if the first one does, and then the second. -/
theorem result_bind_eq_ok_iff {p : Run σ α} {f : α → Run σ β} {s : σ} {b : β} :
    ((p >>= f).run s).result = .ok b ↔
      ∃ a, (p.run s).result = .ok a ∧ ((f a).run (p.run s).rest).result = .ok b := by
  rw [run_bind]
  cases (p.run s).result with
  | error e => simp
  | ok a => simp

/-- Two steps fail where the first one fails, or else where the second does. -/
theorem result_bind_eq_error_iff {p : Run σ α} {f : α → Run σ β} {s : σ} {e : Error} :
    ((p >>= f).run s).result = .error e ↔
      (p.run s).result = .error e ∨
        ∃ a, (p.run s).result = .ok a ∧ ((f a).run (p.run s).rest).result = .error e := by
  rw [run_bind]
  cases (p.run s).result with
  | error e => simp
  | ok a => simp

theorem result_bind_ofExcept (p : Run σ α) (f : α → Except Error β) (s : σ) :
    ((p >>= fun a => ofExcept (f a)).run s).result = (p.run s).result >>= f := by
  rw [run_bind]
  cases (p.run s).result with
  | error e => rfl
  | ok a => cases hf : f a <;> simp [hf, bind, Except.bind]

theorem events_bind_ofExcept (p : Run σ α) (f : α → Except Error β) (s : σ) :
    ((p >>= fun a => ofExcept (f a)).run s).events = (p.run s).events := by
  rw [run_bind]
  cases (p.run s).result with
  | error e => rfl
  | ok a => cases hf : f a <;> simp [hf]

/-! ## What a run emits -/

/-- Every event of the run has the property. -/
def Emits (P : Event → Prop) (p : Run σ α) : Prop := ∀ s, ∀ e ∈ (p.run s).events, P e

section

variable {P : Event → Prop}

theorem emits_pure (a : α) : (pure a : Run σ α).Emits P := nofun

theorem emits_fail (e : Error) : (fail e : Run σ α).Emits P := nofun

theorem emits_ofExcept (x : Except Error α) : (ofExcept x : Run σ α).Emits P := by
  cases x with
  | error e => exact emits_fail e
  | ok a => exact emits_pure a

theorem emits_emit {e : Event} (h : P e) : (emit e : Run σ Unit).Emits P := by
  intro s e' he
  cases List.mem_singleton.1 he
  exact h

/-- What holds of the events of each of two steps holds of both. -/
theorem Emits.bind {p : Run σ α} {f : α → Run σ β} (hp : p.Emits P) (hf : ∀ a, (f a).Emits P) :
    (p >>= f).Emits P := by
  intro s e he
  rw [run_bind] at he
  cases h : (p.run s).result with
  | error x =>
    rw [h] at he
    exact hp s e he
  | ok a =>
    rw [h] at he
    exact (List.mem_append.1 he).elim (hp s e) (hf a _ e)

end

end Run

/-! ## Documents -/

variable {σ : Type}

open Run

/-- Apart from the log, making a request is building its draft. -/
theorem Draft.unlogged_make (d : Draft) : (d.make : Run σ Request).unlogged = ofExcept d.build := by
  rw [Draft.make, unlogged_bind, unlogged_ofExcept]
  simp only [unlogged_bind, unlogged_log, unlogged_pure, pure_bind]
  cases d.build <;> rfl

theorem Draft.result_make {σ : Type} (d : Draft) (s : σ) : (d.make.run s).result = d.build := by
  rw [← result_unlogged, d.unlogged_make, result_ofExcept]

theorem Request.unlogged_encode (r : Request) : (r.encode : Run σ Json).unlogged = pure r.toJson := rfl

theorem Request.unlogged_decode (j : Json) :
    (Request.decode j : Run σ Request).unlogged = ofExcept (Request.ofJson j) := by
  rw [Request.decode, unlogged_bind, unlogged_ofExcept]
  simp only [Draft.unlogged_make]
  exact ofExcept_bind _ _

theorem Details.unlogged_decode (expected : Option Kind) (j : Json) :
    (Details.decode expected j : Run σ Details).unlogged = ofExcept (Details.ofJson expected j) := by
  rw [Details.decode, unlogged_bind, unlogged_ofExcept]
  simp only [unlogged_bind, unlogged_log, unlogged_pure, pure_bind]
  cases Details.ofJson expected j <;> rfl

theorem Details.unlogged_decodeAll (expected : Option Kind) (js : List Json) :
    (Details.decodeAll expected js : Run σ (List Details)).unlogged =
      ofExcept (js.mapM (Details.ofJson expected)) := by
  induction js with
  | nil => rfl
  | cons j js ih =>
    rw [Details.decodeAll, unlogged_bind, Details.unlogged_decode, List.mapM_cons, ← ofExcept_bind]
    simp only [unlogged_bind, ih, unlogged_pure]
    refine congrArg _ (funext fun d => ?_)
    exact ofExcept_bind _ fun ds => .ok (d :: ds)

/-- Apart from the log, decoding a list is reading its document. -/
theorem Versions.unlogged_decode (expected : Option Kind) (j : Json) :
    (Versions.decode expected j : Run σ Versions).unlogged =
      ofExcept (Versions.ofJson expected j) := by
  rw [Versions.decode, unlogged_bind, unlogged_ofExcept, Versions.ofJson, ← ofExcept_bind]
  simp only [unlogged_bind, Details.unlogged_decodeAll, unlogged_pure]
  refine congrArg _ (funext fun js => ?_)
  exact ofExcept_bind _ fun ds => .ok (Versions.mk ds)

end Credentials
