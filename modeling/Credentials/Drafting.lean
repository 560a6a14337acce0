import Credentials.Session.Documents

/-!
# Drafting requests

A draft is filled in by edits, in any order and number, and a request may be made from it at any time. A
`Desk` holds the draft at hand beside copies of drafts that were put aside; neither edits of the one nor
requests made from it touch the others.
-/

namespace Credentials

/-- A change to a draft. -/
inductive Draft.Edit
  | name (n : Name)
  | value (v : Value)
  | overwrite (b : Bool)
  | permission (p : Permission)
  | permissions (ps : List Permission)

/-- The draft after a change. -/
def Draft.edit (d : Draft) : Draft.Edit → Draft
  | .name n => { d with name := some n }
  | .value v => { d with value := some v }
  | .overwrite b => { d with overwrite := b }
  | .permission p => { d with permissions := d.permissions ++ [p] }
  | .permissions ps => { d with permissions := d.permissions ++ ps }

/-- Something done with a draft. -/
inductive DraftStep
  | edit (e : Draft.Edit)
  /-- Puts a copy aside. -/
  | save (slot : Nat)
  /-- Goes back to a copy. -/
  | restore (slot : Nat)
  /-- Makes a request. -/
  | build

/-- The draft at hand and the copies put aside. -/
structure Desk where
  current : Draft := {}
  saved : Nat → Draft := fun _ => {}

namespace Desk

variable {σ : Type}

/-- The desk after a step. -/
def after (d : Desk) : DraftStep → Desk
  | .edit e => { d with current := d.current.edit e }
  | .save slot => { d with saved := fun n => if n = slot then d.current else d.saved n }
  | .restore slot => { d with current := d.saved slot }
  | .build => d

/-- What a step returns: a request, if it makes one. -/
def outcome (d : Desk) : DraftStep → Run σ (Option (Except Error Request))
  | .build => do return some (← d.current.make.attempt)
  | _ => return none

/-- Carries out steps one after the other. -/
def perform : Desk → List DraftStep → Run σ (List (Option (Except Error Request)))
  | _, [] => return []
  | d, s :: ss => do
    let r ← d.outcome s
    let rs ← perform (d.after s) ss
    return r :: rs

end Desk

end Credentials
