import Credentials.Error
import Credentials.Instant.Basic

/-!
# Values of credentials

What a credential holds, by kind. Values are made freely; `Value.fault?` says which rule of presence one
breaks, if any. The keys of a key pair are never the empty text, because `KeyPair.ofKeys` takes an empty
key for an absent one.
-/

namespace Credentials

/-- A public and a private key, each of which may be absent. -/
structure KeyPair where
  publicKey : Option String
  privateKey : Option String
  /-- An empty public key is absent. -/
  publicKey_ne : publicKey ≠ some ""
  /-- An empty private key is absent. -/
  privateKey_ne : privateKey ≠ some ""
deriving DecidableEq

namespace KeyPair

@[ext] theorem ext {a b : KeyPair} (hp : a.publicKey = b.publicKey)
    (hq : a.privateKey = b.privateKey) : a = b := by
  cases a; cases b; cases hp; cases hq; rfl

/-- A key, unless it is empty. -/
def key (k : Option String) : Option String := k.filter fun s => s ≠ ""

theorem key_ne (k : Option String) : key k ≠ some "" := by
  cases k with
  | none => simp [key]
  | some s => by_cases h : s = "" <;> simp [key, Option.filter, h]

/-- The key pair of two keys; empty ones are absent. -/
def ofKeys (publicKey privateKey : Option String) : KeyPair :=
  ⟨key publicKey, key privateKey, key_ne _, key_ne _⟩

/-- Whether there is no key. -/
def isEmpty (k : KeyPair) : Bool := k.publicKey.isNone && k.privateKey.isNone

end KeyPair

/-- A certificate and what is known about it. -/
structure Certificate where
  certificate : Option String := none
  authority : Option String := none
  privateKey : Option String := none
  authorityName : Option String := none
  selfSigned : Option Bool := none
  generated : Option Bool := none
  transitional : Option Bool := none
  expiry : Option Instant := none
deriving DecidableEq

/-- What a credential holds. -/
inductive Value
  | value (text : String)
  | json (members : Json.Object)
  | password (text : String)
  | user (username password : Option String)
  | ssh (keys : KeyPair)
  | rsa (keys : KeyPair)
  | certificate (c : Certificate)

namespace Value

/-- The kind of a value. -/
def kind : Value → Kind
  | value _ => .value
  | json _ => .json
  | password _ => .password
  | user _ _ => .user
  | ssh _ => .ssh
  | rsa _ => .rsa
  | certificate _ => .certificate

/-- Equality of values, in which the order of the members of a JSON object does not matter. -/
def same : Value → Value → Bool
  | value a, value b => a == b
  | json a, json b => Json.object a == Json.object b
  | password a, password b => a == b
  | user a b, user c d => a == c && b == d
  | ssh a, ssh b => a == b
  | rsa a, rsa b => a == b
  | certificate a, certificate b => a == b
  | _, _ => false

instance : BEq Value := ⟨same⟩

/-- The rule of presence that a value breaks: a text or an object must hold something, a key pair a key. -/
def fault? : Value → Option ValidationError
  | value s => if s = "" then some (.emptyField .value "value") else none
  | json o => if o.toList.isEmpty then some (.emptyField .json "value") else none
  | password s => if s = "" then some (.emptyField .password "password") else none
  | user _ _ => none
  | ssh k => if k.isEmpty then some (.noKeys .ssh) else none
  | rsa k => if k.isEmpty then some (.noKeys .rsa) else none
  | certificate _ => none

end Value

end Credentials
