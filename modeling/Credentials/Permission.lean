import Credentials.Error
import Credentials.Text.Blank

/-!
# Permissions

A permission grants operations to an actor. Operations form an ordered set: `allow` appends one that is
new and leaves the rest as it is. A grant is the text `actor=operation,operation,…`, read by
`Permission.ofGrant`, in which an actor is written as `role:id`.
-/

namespace Credentials

/-- The part of a text before the first separator and the part behind it. -/
def cut? (separator : Char) : List Char → Option (List Char × List Char)
  | [] => none
  | c :: s =>
    if c = separator then some ([], s) else (cut? separator s).map fun p => (c :: p.1, p.2)

/-- What an actor is to the identity provider. -/
inductive Role
  | app
  | user
  | client
deriving DecidableEq

namespace Role

/-- The word for a role in the text of an actor. -/
def tag : Role → String
  | app => "mtls-app"
  | user => "uaa-user"
  | client => "uaa-client"

/-- The role that a word names. -/
def ofTag? (s : String) : Option Role := [app, user, client].find? fun r => r.tag = s

end Role

/-- Someone to whom operations are granted. -/
structure Actor where
  role : Role
  id : String
deriving DecidableEq

namespace Actor

/-- The text of an actor. -/
def text (a : Actor) : String := a.role.tag ++ ":" ++ a.id

/-- The error for a text that is no actor. -/
def fault (input : String) (f : PermissionFault) : Error :=
  .validation (.invalidPermission input f)

/-- The actor that a text names: the role ends at the first colon. -/
def ofString (input : String) : Except Error Actor :=
  match cut? ':' input.toList with
  | none => .error (fault input .noColon)
  | some (role, id) =>
    if id.isEmpty then .error (fault input .emptyId)
    else
      match Role.ofTag? (String.ofList role) with
      | none => .error (fault input .unknownActor)
      | some role => .ok ⟨role, String.ofList id⟩

end Actor

/-- What an actor may do with a credential. -/
inductive Operation
  | read
  | write
  | delete
  | readAcl
  | writeAcl
deriving DecidableEq

namespace Operation

/-- The name of an operation. -/
def text : Operation → String
  | read => "read"
  | write => "write"
  | delete => "delete"
  | readAcl => "read_acl"
  | writeAcl => "write_acl"

/-- All operations. -/
def all : List Operation := [read, write, delete, readAcl, writeAcl]

/-- The operation of a name. -/
def ofString (s : String) : Except Error Operation :=
  match all.find? fun o => o.text = s with
  | some o => .ok o
  | none => .error (.validation (.invalidPermission s .unknownOperation))

end Operation

/-- Operations granted to an actor. -/
structure Permission where
  actor : Actor
  /-- The operations in the order in which they were granted. -/
  operations : List Operation
  /-- No operation is listed twice. -/
  nodup : operations.Nodup
deriving DecidableEq

namespace Permission

@[ext] theorem ext {p q : Permission} (ha : p.actor = q.actor) (ho : p.operations = q.operations) :
    p = q := by
  cases p; cases q; cases ha; cases ho; rfl

/-- A permission without operations. -/
def ofActor (actor : Actor) : Permission := ⟨actor, [], List.nodup_nil⟩

/-- Operations with one more at the end, unless it is there already. -/
def addOperation (operations : List Operation) (o : Operation) : List Operation :=
  if o ∈ operations then operations else operations ++ [o]

theorem nodup_addOperation {operations : List Operation} (h : operations.Nodup) (o : Operation) :
    (addOperation operations o).Nodup := by
  unfold addOperation
  split
  · exact h
  · rename_i ho
    exact List.nodup_append.2 ⟨h, by simp, fun a ha b hb => by
      simp only [List.mem_singleton] at hb
      exact fun e => ho (hb ▸ e ▸ ha)⟩

/-- Grants one more operation. -/
def allow (p : Permission) (o : Operation) : Permission :=
  ⟨p.actor, addOperation p.operations o, nodup_addOperation p.nodup o⟩

/-- Grants operations one after the other. -/
def allowAll (p : Permission) (os : List Operation) : Permission := os.foldl allow p

/-- The names of operations in a list with commas; empty pieces are skipped. -/
def operationNames (s : List Char) : List String :=
  ((s.splitOn ',').map fun piece => Text.trim (String.ofList piece)).filter fun name => name ≠ ""

/-- The permission that a grant describes. -/
def ofGrant (s : String) : Except Error Permission :=
  match cut? '=' s.toList with
  | none => .error (Actor.fault s .noEquals)
  | some (actor, names) => do
    let operations ← (operationNames names).mapM Operation.ofString
    if operations.isEmpty then .error (Actor.fault s .noOperations)
    else
      let actor ← Actor.ofString (String.ofList actor)
      return (ofActor actor).allowAll operations

end Permission

end Credentials
