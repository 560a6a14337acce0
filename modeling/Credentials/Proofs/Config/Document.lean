import Credentials.Config.Basic
import Credentials.Proofs.Options
import Credentials.Proofs.Outcome

/-!
# What a document says about a configuration

The settings of a configuration are members of two sections, `server` and `client`. A section is a
table, or a list that gives its settings in order; what stands in a section beside its settings does
not matter. `Config.Describes` says of each setting where it stands and what it has to be, and reading a
document comes to just that (`Config.ofToml?_eq_some_iff`).
-/

namespace Credentials.Config

open Toml (Tree Members)

/-! ## Settings -/

/-- What stands in a section under a name, or in its place if the section is a list. A date is a section
without settings. -/
inductive Gives : Option Tree → Nat → String → Option Tree → Prop
  | missing (place : Nat) (name : String) : Gives none place name none
  | named (style : Toml.Style) (members : Members) (place : Nat) (name : String) :
      Gives (some (.table style members)) place name (members.lookup name)
  | listed (items : List Tree) (place : Nat) (name : String) :
      Gives (some (.array items)) place name items[place]?
  | opened (items : List Members) (place : Nat) (name : String) :
      Gives (some (.tables items)) place name (items[place]?.map (.table .headed))
  | dated (place : Nat) (name : String) : Gives (some .date) place name none

/-- A text. -/
inductive IsText : Tree → String → Prop
  | string (s : String) : IsText (.string s) s

/-- A number of milliseconds that fits in 64 bits. -/
inductive IsMillis : Tree → Duration → Prop
  | integer {n : Nat} {d : Duration} (hn : n < 2 ^ 64) (hd : d.toNanos = n * 1000000) :
      IsMillis (.integer n) d

/-- A list of texts. -/
inductive AreTexts : Tree → List String → Prop
  | array {items : List Tree} {ss : List String} (h : items.Forall₂ IsText ss) :
      AreTexts (.array items) ss
  | tables : AreTexts (.tables []) []

/-- A setting that is missing, or one of the right sort. -/
inductive IsOptional {α : Type} (Is : Tree → α → Prop) : Option Tree → Option α → Prop
  | missing : IsOptional Is none none
  | present {t : Tree} {a : α} (h : Is t a) : IsOptional Is (some t) (some a)

/-- The document gives the configuration. -/
structure Describes (root : Members) (c : Config) : Prop where
  url : ∃ t u, Gives (root.lookup "server") 0 "url" t ∧ IsOptional IsText t u ∧ c.url = u.getD ""
  token : ∃ t, Gives (root.lookup "server") 1 "token" t ∧ IsOptional IsText t c.token
  connectionTimeout : ∃ t, Gives (root.lookup "client") 0 "connection_timeout_ms" t ∧
    IsOptional IsMillis t c.options.connectionTimeout
  readTimeout : ∃ t, Gives (root.lookup "client") 1 "read_timeout_ms" t ∧
    IsOptional IsMillis t c.options.readTimeout
  certificateFiles : ∃ t, Gives (root.lookup "client") 2 "ca_cert_files" t ∧
    IsOptional AreTexts t c.options.certificateFiles

/-! ## Reading them -/

/-- The place of a name in a list of names without repetition. -/
theorem lookup_zip {α : Type} {names : List String} (hnodup : names.Nodup) {place : Nat}
    {name : String} (hplace : names[place]? = some name) (items : List α) :
    (names.zip items).lookup name = items[place]? := by
  induction names generalizing place items with
  | nil => cases hplace
  | cons first names ih =>
    obtain ⟨hfirst, hnodup⟩ := List.nodup_cons.1 hnodup
    cases items with
    | nil => rfl
    | cons item items =>
      rw [List.zip_cons_cons, List.lookup_cons]
      cases place with
      | zero =>
        cases hplace
        simp
      | succ place =>
        have hmem : name ∈ names := List.mem_of_getElem? hplace
        have hne : (name == first) = false := by
          rw [beq_eq_false_iff_ne]
          rintro rfl
          exact hfirst hmem
        rw [hne]
        exact ih hnodup hplace items

/-- A setting is looked up where it stands, by its name or by its place. -/
theorem setting?_eq_some_iff {names : List String} (hnodup : names.Nodup) {place : Nat}
    {name : String} (hplace : names[place]? = some name) (section? t : Option Tree) :
    setting? names section? name = some t ↔ Gives section? place name t := by
  constructor
  · intro h
    unfold setting? at h
    split at h
    · cases h
      exact .missing _ _
    · cases h
      exact .named _ _ _ _
    · rw [lookup_zip hnodup hplace] at h
      cases h
      exact .listed _ _ _
    · rw [lookup_zip hnodup hplace, List.getElem?_map] at h
      cases h
      exact .opened _ _ _
    · cases h
      exact .dated _ _
    · cases h
  · rintro ⟨⟩
    · rfl
    · rfl
    · exact congrArg some (lookup_zip hnodup hplace _)
    · exact congrArg some ((lookup_zip hnodup hplace _).trans List.getElem?_map)
    · rfl

theorem text?_eq_some_iff (t : Tree) (s : String) : text? t = some s ↔ IsText t s := by
  constructor
  · intro h
    unfold text? at h
    split at h
    · cases h
      exact .string s
    · cases h
  · rintro ⟨⟩
    rfl

/-- A timeout is read as a number of milliseconds; a negative one or one beyond 64 bits is none. -/
theorem millis?_eq_some_iff (t : Tree) (d : Duration) : millis? t = some d ↔ IsMillis t d := by
  constructor
  · intro h
    unfold millis? at h
    split at h
    · split at h
      · rename_i n hn
        obtain ⟨m, rfl⟩ := Int.eq_ofNat_of_zero_le hn.1
        cases h
        exact .integer (by omega) (Duration.toNanos_ofMillis _)
      · cases h
    · cases h
  · rintro ⟨hn, hd⟩
    rename_i n
    have hrange : 0 ≤ (n : Int) ∧ (n : Int) < 18446744073709551616 := by omega
    rw [millis?, dif_pos hrange]
    refine congrArg some (Duration.toNanos_injective ?_)
    rw [Duration.toNanos_ofMillis, hd]
    rfl

theorem mapM_text?_eq_some_iff {items : List Tree} {ss : List String} :
    items.mapM text? = some ss ↔ items.Forall₂ IsText ss := by
  induction items generalizing ss with
  | nil => simp [eq_comm]
  | cons item items ih =>
    rw [List.mapM_cons, List.forall₂_cons_left_iff]
    simp only [Option.bind_eq_bind, Option.bind_eq_some_iff, Option.pure_def, Option.some.injEq, ih,
      text?_eq_some_iff]
    constructor
    · rintro ⟨s, hs, rest, hrest, rfl⟩
      exact ⟨s, rest, hs, hrest, rfl⟩
    · rintro ⟨s, rest, hs, hrest, rfl⟩
      exact ⟨s, hs, rest, hrest, rfl⟩

/-- A list is read if all its items are texts, and an empty list of tables counts as one. -/
theorem texts?_eq_some_iff (t : Tree) (ss : List String) : texts? t = some ss ↔ AreTexts t ss := by
  constructor
  · intro h
    unfold texts? at h
    split at h
    · exact .array (mapM_text?_eq_some_iff.1 h)
    · cases h
      exact .tables
    · cases h
  · rintro (h | _)
    · exact mapM_text?_eq_some_iff.2 h
    · rfl

/-- A setting may be missing, but what is there has to be of the right sort. -/
theorem optional_eq_some_iff {α : Type} {read : Tree → Option α} {Is : Tree → α → Prop}
    (hread : ∀ t a, read t = some a ↔ Is t a) {t : Option Tree} {a : Option α} :
    optional read t = some a ↔ IsOptional Is t a := by
  constructor
  · intro h
    cases t with
    | none =>
      cases h
      exact .missing
    | some t =>
      obtain ⟨b, hb, rfl⟩ := Option.map_eq_some_iff.1 h
      exact .present ((hread t b).1 hb)
  · rintro (_ | h)
    · rfl
    · rw [optional, (hread _ _).2 h]
      rfl

/-- Reading a document gives the configuration that it describes, and no other. -/
theorem ofToml?_eq_some_iff {root : Members} {c : Config} :
    ofToml? root = some c ↔ Describes root c := by
  have hserver (place : Nat) (name : String) (hplace : serverNames[place]? = some name)
      (t : Option Tree) := setting?_eq_some_iff (by decide) hplace (root.lookup "server") t
  have hclient (place : Nat) (name : String) (hplace : clientNames[place]? = some name)
      (t : Option Tree) := setting?_eq_some_iff (by decide) hplace (root.lookup "client") t
  unfold ofToml?
  simp only [Option.bind_eq_bind, Option.bind_eq_some_iff, Option.pure_def, Option.some.injEq,
    hserver 0 "url" rfl, hserver 1 "token" rfl, hclient 0 "connection_timeout_ms" rfl,
    hclient 1 "read_timeout_ms" rfl, hclient 2 "ca_cert_files" rfl, optional_eq_some_iff text?_eq_some_iff,
    optional_eq_some_iff millis?_eq_some_iff, optional_eq_some_iff texts?_eq_some_iff]
  constructor
  · rintro ⟨t, ht, u, hu, t', ht', token, htoken, t₁, ht₁, d₁, hd₁, t₂, ht₂, d₂, hd₂, t₃, ht₃, fs, hfs,
      rfl⟩
    exact ⟨⟨t, u, ht, hu, rfl⟩, ⟨t', ht', htoken⟩, ⟨t₁, ht₁, hd₁⟩, ⟨t₂, ht₂, hd₂⟩, ⟨t₃, ht₃, hfs⟩⟩
  · rintro ⟨⟨t, u, ht, hu, hurl⟩, ⟨t', ht', htoken⟩, ⟨t₁, ht₁, hd₁⟩, ⟨t₂, ht₂, hd₂⟩, ⟨t₃, ht₃, hfs⟩⟩
    refine ⟨t, ht, u, hu, t', ht', _, htoken, t₁, ht₁, _, hd₁, t₂, ht₂, _, hd₂, t₃, ht₃, _, hfs, ?_⟩
    rw [← hurl]

end Credentials.Config
