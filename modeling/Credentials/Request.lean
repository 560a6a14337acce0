import Credentials.Name
import Credentials.Permission
import Credentials.Value

/-!
# Requests to write a credential

A `Draft` collects what a request needs in any order, and `Draft.build` makes the request. A request
holds a value that breaks no rule, so whoever has one need not check it again.
-/

namespace Credentials

/-- A request to write a credential. -/
structure Request where
  name : Name
  overwrite : Bool
  value : Value
  permissions : List Permission
  /-- The value breaks no rule of presence. -/
  valid : value.fault? = none

namespace Request

@[ext] theorem ext {a b : Request} (hn : a.name = b.name) (ho : a.overwrite = b.overwrite)
    (hv : a.value = b.value) (hp : a.permissions = b.permissions) : a = b := by
  cases a; cases b; cases hn; cases ho; cases hv; cases hp; rfl

/-- The kind of credential that is written. -/
def kind (r : Request) : Kind := r.value.kind

instance : BEq Request := ⟨fun a b =>
  a.name == b.name && a.overwrite == b.overwrite && a.value == b.value
    && a.permissions == b.permissions⟩

end Request

/-- A request in the making. -/
structure Draft where
  name : Option Name := none
  overwrite : Bool := false
  value : Option Value := none
  permissions : List Permission := []

namespace Draft

/-- The request that a draft describes, or the first thing that it lacks. -/
def build (d : Draft) : Except Error Request :=
  match d.name with
  | none => .error (.validation .missingName)
  | some name =>
    match d.value with
    | none => .error (.validation .missingValue)
    | some value =>
      match h : value.fault? with
      | some e => .error (.validation e)
      | none => .ok ⟨name, d.overwrite, value, d.permissions, h⟩

end Draft

end Credentials
