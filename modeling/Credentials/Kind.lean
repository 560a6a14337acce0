/-!
# Kinds of credentials

A credential is of one of seven kinds, and each kind has a tag by which documents and the command line
name it. `Kind.ofTag?` reads exactly the tags that `Kind.tag` writes.
-/

namespace Credentials

/-- The kind of a credential. -/
inductive Kind
  | value
  | json
  | password
  | user
  | ssh
  | rsa
  | certificate
deriving DecidableEq, Repr

namespace Kind

/-- The tag of a kind. -/
def tag : Kind → String
  | value => "value"
  | json => "json"
  | password => "password"
  | user => "user"
  | ssh => "ssh"
  | rsa => "rsa"
  | certificate => "certificate"

/-- All kinds in their usual order. -/
def all : List Kind := [value, json, password, user, ssh, rsa, certificate]

/-- The kind that a tag names. -/
def ofTag? (s : String) : Option Kind := all.find? fun k => k.tag = s

@[simp] theorem ofTag?_tag (k : Kind) : ofTag? k.tag = some k := by cases k <;> decide

theorem ofTag?_eq_some_iff {s : String} {k : Kind} : ofTag? s = some k ↔ s = k.tag := by
  constructor
  · intro h
    have := List.find?_some h
    exact (of_decide_eq_true this).symm
  · rintro rfl
    exact ofTag?_tag k

end Kind

end Credentials
