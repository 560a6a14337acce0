import Credentials.Binary64.Shortest

/-!
# Raw JSON trees

A `Tree` is JSON syntax with the order of members kept and nothing ruled out. `Tree.Distinct` says
that no object in it repeats a key, which makes the tree a JSON value; `Tree.same` compares values, for
which the order of members does not matter; `Tree.depth` counts nested arrays and objects.
-/

namespace Credentials.Json

/-- A whole number that JSON text keeps exactly: it fits in 64 bits, signed or unsigned. -/
structure Integer where
  /-- The number. -/
  val : Int
  /-- It is at least the least signed one. -/
  ge : -9223372036854775808 ≤ val
  /-- It is below the end of the unsigned ones. -/
  lt : val < 18446744073709551616
deriving DecidableEq

/-- A JSON number; a whole number and a double are never equal. -/
inductive Number
  | integer (n : Integer)
  | float (x : Binary64)
deriving DecidableEq

namespace Number

/-- Equality of numbers: doubles are compared by value. -/
def same : Number → Number → Bool
  | .integer a, .integer b => a == b
  | .float a, .float b => a.same b
  | _, _ => false

/-- The text of a number. -/
def text : Number → String
  | .integer n => toString n.val
  | .float x => x.text

end Number

/-- JSON syntax with its members in order. -/
inductive Tree
  | null
  | bool (b : Bool)
  | number (n : Number)
  | string (s : String)
  | array (items : List Tree)
  | object (members : List (String × Tree))

namespace Tree

mutual

/-- How many arrays and objects are nested, the outermost included. -/
def depth : Tree → Nat
  | .array items => depthAll items + 1
  | .object members => depthMembers members + 1
  | _ => 0

/-- The largest depth among items. -/
def depthAll : List Tree → Nat
  | [] => 0
  | t :: ts => max t.depth (depthAll ts)

/-- The largest depth among members. -/
def depthMembers : List (String × Tree) → Nat
  | [] => 0
  | (_, t) :: ms => max t.depth (depthMembers ms)

end

mutual

/-- Equality of JSON values, in which the order of members does not matter. -/
def same : Tree → Tree → Bool
  | .null, .null => true
  | .bool a, .bool b => a == b
  | .number a, .number b => a.same b
  | .string a, .string b => a == b
  | .array as, .array bs => sameAll as bs
  | .object as, .object bs => as.length == bs.length && sameMembers as bs
  | _, _ => false

/-- Equality of arrays, place by place. -/
def sameAll : List Tree → List Tree → Bool
  | [], [] => true
  | a :: as, b :: bs => same a b && sameAll as bs
  | _, _ => false

/-- Whether every member on the left has an equal one on the right. -/
def sameMembers : List (String × Tree) → List (String × Tree) → Bool
  | [], _ => true
  | (k, a) :: as, bs =>
    (match bs.lookup k with
      | some b => same a b
      | none => false) && sameMembers as bs

end

mutual

/-- No object in the tree repeats a key. -/
def Distinct : Tree → Prop
  | .array items => DistinctAll items
  | .object members => (members.map Prod.fst).Nodup ∧ DistinctMembers members
  | _ => True

/-- No object in an item repeats a key. -/
def DistinctAll : List Tree → Prop
  | [] => True
  | t :: ts => t.Distinct ∧ DistinctAll ts

/-- No object in the value of a member repeats a key. -/
def DistinctMembers : List (String × Tree) → Prop
  | [] => True
  | (_, t) :: ms => t.Distinct ∧ DistinctMembers ms

end

mutual

/-- Whether some number in the tree is a double. -/
def hasFloat : Tree → Bool
  | .number (.float _) => true
  | .array items => anyFloat items
  | .object members => anyFloatMember members
  | _ => false

/-- Whether some item holds a double. -/
def anyFloat : List Tree → Bool
  | [] => false
  | t :: ts => t.hasFloat || anyFloat ts

/-- Whether some member holds a double. -/
def anyFloatMember : List (String × Tree) → Bool
  | [] => false
  | (_, t) :: ms => t.hasFloat || anyFloatMember ms

end

theorem distinctAll_iff {items : List Tree} : DistinctAll items ↔ ∀ t ∈ items, t.Distinct := by
  induction items with
  | nil => simp [DistinctAll]
  | cons t ts ih => simp [DistinctAll, ih]

theorem distinctMembers_iff {members : List (String × Tree)} :
    DistinctMembers members ↔ ∀ m ∈ members, m.2.Distinct := by
  induction members with
  | nil => simp [DistinctMembers]
  | cons m ms ih =>
    obtain ⟨k, t⟩ := m
    simp [DistinctMembers, ih]

end Tree

end Credentials.Json
