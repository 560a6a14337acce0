import Credentials.Json.Basic

/-!
# Members that may be absent

Documents leave out what is not set: `Object.ofFields` writes the fields that have a value, in order,
and `Object.present?` reads one, for which null counts as absent.
-/

namespace Credentials.Json

namespace Object

/-- The object of the fields that have a value. -/
def ofFields (fields : List (String × Option Json)) : Object :=
  fields.foldl (fun o f => o.insert? f.1 f.2) empty

/-- The value of a key, unless it is null. -/
def present? (o : Object) (key : String) : Option Json := (o.get? key).filter fun j => !j.isNull

end Object

/-- The object of the fields that have a value, as a value. -/
def ofFields (fields : List (String × Option Json)) : Json := object (.ofFields fields)

/-- The truth value of a boolean. -/
def bool? (j : Json) : Option Bool :=
  match j.view with
  | .bool b => some b
  | _ => none

@[simp] theorem bool?_bool (b : Bool) : (bool b).bool? = some b := by simp [bool?]

end Credentials.Json
