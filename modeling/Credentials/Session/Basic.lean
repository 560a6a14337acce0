import Credentials.Error
import Credentials.Http.Message
import Credentials.Log.Basic

/-!
# Runs

A `Run` is what a program does: it may fail with an `Error`, use up part of a supply (such as the answers
of a server), and leaves a list of events behind. The events of a sequence of runs are those of its parts
in order, up to the first failure, which ends it.
-/

namespace Credentials

/-- Something that others can see. -/
inductive Event
  /-- A line is written to the log. -/
  | logged (line : LogLine)
  /-- A file is opened. -/
  | opened (path : String)
  /-- A request is handed to the transport. -/
  | sent (request : Http.Request)
  /-- A request arrives at the server. -/
  | arrived (arrival : Http.Arrival)
  /-- Text is written to standard output. -/
  | printed (text : String)

/-- What a run leaves behind. -/
structure Outcome (σ α : Type) where
  result : Except Error α
  /-- What happened, in order. -/
  events : List Event
  /-- What is left of the supply. -/
  rest : σ

/-- Something a program does with a supply of type `σ`. -/
structure Run (σ α : Type) where
  /-- Does it. -/
  run : σ → Outcome σ α

namespace Run

variable {σ α β : Type}

@[ext] theorem ext {p q : Run σ α} (h : p.run = q.run) : p = q := by
  cases p; cases q; cases h; rfl

/-- Does nothing. -/
def done (a : α) : Run σ α := ⟨fun s => ⟨.ok a, [], s⟩⟩

/-- Does one thing and, unless it fails, another that depends on its result. -/
def andThen (p : Run σ α) (f : α → Run σ β) : Run σ β :=
  ⟨fun s =>
    let first := p.run s
    match first.result with
    | .error e => ⟨.error e, first.events, first.rest⟩
    | .ok a =>
      let next := (f a).run first.rest
      ⟨next.result, first.events ++ next.events, next.rest⟩⟩

instance : Monad (Run σ) where
  pure := done
  bind := andThen

/-- Fails. -/
def fail (e : Error) : Run σ α := ⟨fun s => ⟨.error e, [], s⟩⟩

/-- Succeeds or fails without an event. -/
def ofExcept : Except Error α → Run σ α
  | .ok a => done a
  | .error e => fail e

/-- Leaves one event behind. -/
def emit (e : Event) : Run σ Unit := ⟨fun s => ⟨.ok (), [e], s⟩⟩

/-- Writes a line to the log. -/
def log (area : Area) (level : Level) (message : String) (fields : List (String × String)) :
    Run σ Unit :=
  emit (.logged ⟨area, level, message, fields⟩)

/-- Continues with the result of a run, a failure included. -/
def attempt (p : Run σ α) : Run σ (Except Error α) :=
  ⟨fun s =>
    let o := p.run s
    ⟨.ok o.result, o.events, o.rest⟩⟩

@[simp] theorem run_pure (a : α) (s : σ) : (pure a : Run σ α).run s = ⟨.ok a, [], s⟩ := rfl

theorem run_bind (p : Run σ α) (f : α → Run σ β) (s : σ) :
    (p >>= f).run s =
      match (p.run s).result with
      | .error e => ⟨.error e, (p.run s).events, (p.run s).rest⟩
      | .ok a =>
        ⟨((f a).run (p.run s).rest).result,
          (p.run s).events ++ ((f a).run (p.run s).rest).events,
          ((f a).run (p.run s).rest).rest⟩ := rfl

theorem done_andThen (a : α) (f : α → Run σ β) : (done a).andThen f = f a := rfl

theorem andThen_done (p : Run σ α) : p.andThen done = p := by
  refine ext (funext fun s => ?_)
  simp only [andThen]
  split
  · rename_i e h
    rw [← h]
  · rename_i a h
    simp [done, ← h]

theorem andThen_assoc {γ : Type} (p : Run σ α) (f : α → Run σ β) (g : β → Run σ γ) :
    (p.andThen f).andThen g = p.andThen fun a => (f a).andThen g := by
  refine ext (funext fun s => ?_)
  simp only [andThen]
  cases h : (p.run s).result with
  | error e => simp
  | ok a =>
    cases h' : ((f a).run (p.run s).rest).result with
    | error e => simp [h']
    | ok b => simp [h', List.append_assoc]

instance : LawfulMonad (Run σ) := .mk' (Run σ) andThen_done done_andThen andThen_assoc

@[simp] theorem run_fail (e : Error) (s : σ) : (fail e : Run σ α).run s = ⟨.error e, [], s⟩ := rfl

@[simp] theorem run_emit (e : Event) (s : σ) : (emit e : Run σ Unit).run s = ⟨.ok (), [e], s⟩ := rfl

@[simp] theorem run_ofExcept_ok (a : α) (s : σ) :
    (ofExcept (.ok a) : Run σ α).run s = ⟨.ok a, [], s⟩ := rfl

@[simp] theorem run_ofExcept_error (e : Error) (s : σ) :
    (ofExcept (.error e) : Run σ α).run s = ⟨.error e, [], s⟩ := rfl

end Run

end Credentials
