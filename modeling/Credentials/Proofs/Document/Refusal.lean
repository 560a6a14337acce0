import Credentials.Proofs.Document.Grammar

/-!
# Refused documents

A document that describes no stored credential is refused for its type, if the type is a text that
no kind has for a tag or that of another kind than the expected one, and else as malformed. The type
is read first, so no other fault hides it (`Details.refusal_of_error`). A list is refused as the
first of its items that is refused (`Versions.ofJson_eq_error_iff`), and `ofJson_accepts_or_refuses`
puts together what is accepted and what is refused.
-/

namespace Credentials

/-- The document is an object of the type `tag`. -/
def HasType (j : Json) (tag : String) : Prop :=
  ∃ o, j = .object o ∧ o.get? "type" = some (.string tag)

/-- No kind has the tag. -/
def IsUnknown (tag : String) : Prop := ∀ k : Kind, k.tag ≠ tag

/-- The tag is that of a kind, and of the expected one if there is one. -/
def IsExpected (expected : Option Kind) (tag : String) : Prop :=
  ∃ k : Kind, k.tag = tag ∧ ∀ e ∈ expected, e = k

/-- A document has one type at most. -/
theorem HasType.unique {j : Json} {s t : String} (hs : HasType j s) (ht : HasType j t) : s = t := by
  obtain ⟨o, rfl, hs⟩ := hs
  obtain ⟨p, hp, ht⟩ := ht
  obtain rfl := Json.object_injective hp
  rw [hs] at ht
  exact Json.string_injective (Option.some.inj ht)

theorem Kind.tag_injective {k l : Kind} (h : k.tag = l.tag) : k = l := by
  have hk := Kind.ofTag?_tag k
  rw [h, Kind.ofTag?_tag] at hk
  exact (Option.some.inj hk).symm

/-! ## What each reader refuses -/

/-- A kind is refused for a tag that is unknown, for one that is not expected, or for having no tag. -/
theorem Kind.ofObject_eq_error {o : Json.Object} {expected : Option Kind} {e : Error}
    (h : Kind.ofObject o expected = .error e) :
    (∃ tag, o.get? "type" = some (.string tag) ∧ (∀ k : Kind, k.tag ≠ tag) ∧
        e = .codec (.unknownKind tag)) ∨
      (∃ k k', o.get? "type" = some (.string k'.tag) ∧ expected = some k ∧ k ≠ k' ∧
        e = .codec (.kindMismatch k k')) ∨
      (∀ tag, o.get? "type" ≠ some (.string tag)) ∧ e.IsMalformed := by
  rcases bind_eq_error_iff.1 h with htag | ⟨tag, htag, h⟩
  · refine .inr (.inr ⟨fun tag hget => ?_, o.onlyMalformed_required _ _ _ _ _ htag⟩)
    rw [Json.Object.requiredString_eq_ok_iff.2 hget] at htag
    cases htag
  · rw [Json.Object.requiredString_eq_ok_iff] at htag
    split at h
    · rename_i hnone
      cases h
      refine .inl ⟨tag, htag, ?_, rfl⟩
      rintro k rfl
      rw [Kind.ofTag?_tag] at hnone
      cases hnone
    · rename_i k' hk'
      obtain rfl := Kind.ofTag?_eq_some_iff.1 hk'
      split at h
      · cases h
      · split at h
        · cases h
        · rename_i hne
          cases h
          exact .inr (.inl ⟨_, k', htag, rfl, hne, rfl⟩)

theorem Name.onlyMalformed_ofObject (o : Json.Object) : OnlyMalformed (Name.ofObject o) := by
  refine .bind (o.onlyMalformed_required _ _ _ _) fun raw => ?_
  split
  · exact .ok _
  · exact .malformed _

theorem onlyMalformed_textOrField (field : String) (j : Json) :
    OnlyMalformed (textOrField field j) := by
  unfold textOrField
  split
  · exact .ok _
  · exact Json.Object.onlyMalformed_required _ _ _ _ _
  · exact .malformed _

theorem KeyPair.onlyMalformed_ofObject (o : Json.Object) : OnlyMalformed (KeyPair.ofObject o) := by
  have htext (key : String) : OnlyMalformed (o.optionalString key) := o.onlyMalformed_optional _ _ _
  exact .bind (htext _) fun _ => .bind (htext _) fun _ => .ok _

theorem Certificate.onlyMalformed_ofObject (o : Json.Object) :
    OnlyMalformed (Certificate.ofObject o) := by
  have htext (key : String) : OnlyMalformed (o.optionalString key) := o.onlyMalformed_optional _ _ _
  have hflag (key : String) : OnlyMalformed (o.optionalBool key) := o.onlyMalformed_optional _ _ _
  refine .bind (htext _) fun _ => .bind (htext _) fun _ => .bind (htext _) fun _ =>
    .bind (htext _) fun _ => ?_
  refine .bind (hflag _) fun _ => .bind (hflag _) fun _ => .bind (hflag _) fun _ => ?_
  exact .bind (o.onlyMalformed_optionalInstant _) fun _ => .ok _

theorem Value.onlyMalformed_ofJson (kind : Kind) (j : Json) :
    OnlyMalformed (Value.ofJson kind j) := by
  have hobject := Json.onlyMalformed_asObject (.payload kind) j
  cases kind with
  | value => exact .bind (onlyMalformed_textOrField _ _) fun _ => .ok _
  | password => exact .bind (onlyMalformed_textOrField _ _) fun _ => .ok _
  | json =>
    simp only [Value.ofJson]
    split
    · exact .ok _
    · exact .malformed _
  | user =>
    exact .bind hobject fun o => .bind (o.onlyMalformed_optional _ _ _) fun _ =>
      .bind (o.onlyMalformed_optional _ _ _) fun _ => .ok _
  | ssh => exact .bind hobject fun o => .bind (KeyPair.onlyMalformed_ofObject o) fun _ => .ok _
  | rsa => exact .bind hobject fun o => .bind (KeyPair.onlyMalformed_ofObject o) fun _ => .ok _
  | certificate =>
    exact .bind hobject fun o => .bind (Certificate.onlyMalformed_ofObject o) fun _ => .ok _

theorem Value.onlyMalformed_ofObject (o : Json.Object) (kind : Kind) :
    OnlyMalformed (Value.ofObject o kind) := by
  unfold Value.ofObject
  split
  · exact Value.onlyMalformed_ofJson _ _
  · exact .malformed _

/-! ## Stored credentials -/

/-- How a document is refused. -/
inductive Refusal (expected : Option Kind) (j : Json) : Error → Prop
  | unknownKind {tag : String} (h : HasType j tag) (hk : IsUnknown tag) :
      Refusal expected j (.codec (.unknownKind tag))
  | kindMismatch {k l : Kind} (h : HasType j l.tag) (hk : expected = some k) (hne : k ≠ l) :
      Refusal expected j (.codec (.kindMismatch k l))
  | malformed (m : Malformation) (h : ∀ tag, HasType j tag → IsExpected expected tag) :
      Refusal expected j (.malformed m)

/-- A stored credential that is refused is at fault in one of the ways that are told apart. -/
theorem Details.refusal_of_error {expected : Option Kind} {j : Json} {e : Error}
    (h : Details.ofJson expected j = .error e) : Refusal expected j e := by
  rcases bind_eq_error_iff.1 h with hobject | ⟨o, ho, hmembers⟩
  · obtain ⟨hnone, rfl⟩ := Json.asObject_eq_error_iff.1 hobject
    refine .malformed _ ?_
    rintro tag ⟨o, rfl, -⟩
    exact absurd rfl (hnone o)
  obtain rfl := Json.asObject_eq_ok_iff.1 ho
  rcases bind_eq_error_iff.1 hmembers with hkind | ⟨kind, hkind, hothers⟩
  · rcases Kind.ofObject_eq_error hkind with ⟨tag, htag, hunknown, rfl⟩ |
      ⟨k, l, htag, hexpected, hne, rfl⟩ | ⟨hnone, m, rfl⟩
    · exact .unknownKind ⟨o, rfl, htag⟩ hunknown
    · exact .kindMismatch ⟨o, rfl, htag⟩ hexpected hne
    · refine .malformed m ?_
      rintro tag ⟨p, hp, htag⟩
      obtain rfl := Json.object_injective hp
      exact absurd htag (hnone tag)
  · obtain ⟨htag, hexpected⟩ := Kind.ofObject_eq_ok_iff.1 hkind
    -- The type is as expected here, so only the other members are left to be at fault.
    have hrest : OnlyMalformed (.error e : Except Error Details) := by
      rw [← hothers]
      exact .bind (o.onlyMalformed_required _ _ _ _) fun _ => .bind (Name.onlyMalformed_ofObject o)
        fun _ => .bind (Value.onlyMalformed_ofObject o kind) fun _ =>
        .bind (o.onlyMalformed_optionalInstant _) fun _ => .ok _
    obtain ⟨m, rfl⟩ := hrest e rfl
    exact .malformed m fun tag ht => ⟨kind, HasType.unique ⟨o, rfl, htag⟩ ht, hexpected⟩

/-- What is not a stored credential is refused, and for a reason. -/
theorem Details.exists_refusal {expected : Option Kind} {j : Json}
    (h : ∀ d, ¬ IsDetails expected j d) :
    ∃ e, Details.ofJson expected j = .error e ∧ Refusal expected j e := by
  cases hread : Details.ofJson expected j with
  | ok d => exact absurd (Details.ofJson_eq_ok_iff.1 hread) (h d)
  | error e => exact ⟨e, rfl, Details.refusal_of_error hread⟩

/-- The document of a credential has the tag of its kind for a type. -/
theorem IsDetails.hasType {expected : Option Kind} {j : Json} {d : Details}
    (h : IsDetails expected j d) : HasType j d.kind.tag := by
  obtain ⟨o, rfl, h⟩ := h
  exact ⟨o, rfl, h.kind⟩

/-- A document whose type is unknown or not the expected one describes nothing. -/
theorem IsDetails.isExpected {expected : Option Kind} {j : Json} {d : Details}
    (h : IsDetails expected j d) {tag : String} (ht : HasType j tag) : IsExpected expected tag := by
  refine ⟨d.kind, h.hasType.unique ht, ?_⟩
  obtain ⟨o, rfl, h⟩ := h
  exact h.expected

/-- A tag that is expected is known. -/
theorem IsExpected.not_isUnknown {expected : Option Kind} {tag : String}
    (h : IsExpected expected tag) : ¬ IsUnknown tag := by
  obtain ⟨k, hk, -⟩ := h
  exact fun hunknown => hunknown k hk

theorem IsExpected.eq {k l : Kind} (h : IsExpected (some k) l.tag) : k = l := by
  obtain ⟨l', hl, hexpected⟩ := h
  rw [hexpected k rfl, Kind.tag_injective hl]

/-- A kind is unknown before it is unexpected. -/
theorem Details.ofJson_eq_unknownKind_iff {expected : Option Kind} {j : Json} {tag : String} :
    Details.ofJson expected j = .error (.codec (.unknownKind tag)) ↔
      HasType j tag ∧ IsUnknown tag := by
  constructor
  · intro h
    cases Details.refusal_of_error h with
    | unknownKind htag hunknown => exact ⟨htag, hunknown⟩
  · rintro ⟨htag, hunknown⟩
    have hnone : ∀ d, ¬ IsDetails expected j d := fun d hd =>
      (hd.isExpected htag).not_isUnknown hunknown
    obtain ⟨e, he, hrefusal⟩ := Details.exists_refusal hnone
    cases hrefusal with
    | unknownKind htag' _ => rw [he, htag.unique htag']
    | kindMismatch htag' _ _ => exact absurd (htag'.unique htag) (hunknown _)
    | malformed m hknown => exact absurd hunknown (hknown tag htag).not_isUnknown

/-- A kind is unexpected only if it is known. -/
theorem Details.ofJson_eq_kindMismatch_iff {expected : Option Kind} {j : Json} {k l : Kind} :
    Details.ofJson expected j = .error (.codec (.kindMismatch k l)) ↔
      HasType j l.tag ∧ expected = some k ∧ k ≠ l := by
  constructor
  · intro h
    cases Details.refusal_of_error h with
    | kindMismatch htag hexpected hne => exact ⟨htag, hexpected, hne⟩
  · rintro ⟨htag, rfl, hne⟩
    have hnone : ∀ d, ¬ IsDetails (some k) j d := fun d hd => hne (hd.isExpected htag).eq
    obtain ⟨e, he, hrefusal⟩ := Details.exists_refusal hnone
    cases hrefusal with
    | unknownKind htag' hunknown => exact absurd (htag.unique htag') (hunknown l)
    | kindMismatch htag' hexpected _ =>
      rw [he, Option.some.inj hexpected, Kind.tag_injective (htag.unique htag')]
    | malformed m hknown => exact absurd (hknown _ htag).eq hne

/-- Every other document that describes nothing is malformed. -/
theorem Details.ofJson_eq_malformed_iff {expected : Option Kind} {j : Json} :
    (∃ m, Details.ofJson expected j = .error (.malformed m)) ↔
      (∀ tag, HasType j tag → IsExpected expected tag) ∧ ∀ d, ¬ IsDetails expected j d := by
  constructor
  · rintro ⟨m, h⟩
    refine ⟨?_, fun d hd => ?_⟩
    · cases Details.refusal_of_error h with
      | malformed _ hknown => exact hknown
    · rw [Details.ofJson_eq_ok_iff.2 hd] at h
      cases h
  · rintro ⟨hknown, hnone⟩
    obtain ⟨e, he, hrefusal⟩ := Details.exists_refusal hnone
    cases hrefusal with
    | unknownKind htag hunknown => exact absurd hunknown (hknown _ htag).not_isUnknown
    | kindMismatch htag hexpected hne =>
      obtain rfl := hexpected
      exact absurd (hknown _ htag).eq hne
    | malformed m _ => exact ⟨m, he⟩

/-! ## Lists -/

/-- How a document is refused as a list of versions. -/
inductive ListRefusal (expected : Option Kind) (j : Json) : Error → Prop
  | notObject (h : ∀ o, j ≠ .object o) :
      ListRefusal expected j (.malformed (.notObject .credentialList))
  | notArray {o : Json.Object} (h : j = .object o)
      (hdata : ∀ items, o.get? "data" ≠ some (.array items)) :
      ListRefusal expected j (.malformed (.notArray "data"))
  | item {before after : List Json} {x : Json} {e : Error} (h : HasItems j (before ++ x :: after))
      (hbefore : ∀ a ∈ before, ∃ d, IsDetails expected a d)
      (hx : Details.ofJson expected x = .error e) : ListRefusal expected j e

/-- A list is refused for its own shape or as the first of its items that is refused. -/
theorem Versions.ofJson_eq_error_iff {expected : Option Kind} {j : Json} {e : Error} :
    Versions.ofJson expected j = .error e ↔ ListRefusal expected j e := by
  unfold Versions.ofJson
  rw [bind_eq_error_iff, Versions.items, bind_eq_error_iff]
  constructor
  · rintro ((hobject | ⟨o, hobject, hdata⟩) | ⟨items, hitems, h⟩)
    · obtain ⟨hnone, rfl⟩ := Json.asObject_eq_error_iff.1 hobject
      exact .notObject hnone
    · obtain ⟨hnone, rfl⟩ := Json.Object.requiredArray_eq_error_iff.1 hdata
      exact .notArray (Json.asObject_eq_ok_iff.1 hobject) hnone
    · rcases bind_eq_error_iff.1 h with h | ⟨ds, -, h⟩
      · obtain ⟨before, x, after, rfl, hbefore, hx⟩ := mapM_eq_error_iff.1 h
        refine .item (Versions.items_eq_ok_iff.1 hitems) (fun a ha => ?_) hx
        obtain ⟨d, hd⟩ := hbefore a ha
        exact ⟨d, Details.ofJson_eq_ok_iff.1 hd⟩
      · cases h
  · intro h
    cases h with
    | notObject h => exact .inl (.inl (Json.asObject_eq_error_iff.2 ⟨h, rfl⟩))
    | notArray h hdata =>
      refine .inl (.inr ⟨_, Json.asObject_eq_ok_iff.2 h, ?_⟩)
      exact Json.Object.requiredArray_eq_error_iff.2 ⟨hdata, rfl⟩
    | item h hbefore hx =>
      refine .inr ⟨_, Versions.items_eq_ok_iff.2 h, bind_eq_error_iff.2 (.inl ?_)⟩
      refine mapM_eq_error_iff.2 ⟨_, _, _, rfl, fun a ha => ?_, hx⟩
      obtain ⟨d, hd⟩ := hbefore a ha
      exact ⟨d, Details.ofJson_eq_ok_iff.2 hd⟩

/-- Documents and lists of them are accepted exactly as the grammar describes them, and every other
one is refused: for an unknown type, for another type than the expected one, and else as malformed.
A list is refused as the first of its items that is refused. -/
theorem ofJson_accepts_or_refuses (expected : Option Kind) (j : Json) :
    (∀ d, Details.ofJson expected j = .ok d ↔ IsDetails expected j d) ∧
      ((∃ d, Details.ofJson expected j = .ok d) ∨
        ∃ e, Details.ofJson expected j = .error e ∧ Refusal expected j e) ∧
      (∀ tag, Details.ofJson expected j = .error (.codec (.unknownKind tag)) ↔
        HasType j tag ∧ IsUnknown tag) ∧
      (∀ k l, Details.ofJson expected j = .error (.codec (.kindMismatch k l)) ↔
        HasType j l.tag ∧ expected = some k ∧ k ≠ l) ∧
      ((∃ m, Details.ofJson expected j = .error (.malformed m)) ↔
        (∀ tag, HasType j tag → IsExpected expected tag) ∧ ∀ d, ¬ IsDetails expected j d) ∧
      (∀ vs, Versions.ofJson expected j = .ok vs ↔
        ∃ items, HasItems j items ∧ List.Forall₂ (IsDetails expected) items vs.toList) ∧
      ∀ e, Versions.ofJson expected j = .error e ↔ ListRefusal expected j e := by
  refine ⟨fun d => Details.ofJson_eq_ok_iff, ?_, fun tag => ?_, fun k l => ?_,
    Details.ofJson_eq_malformed_iff, fun vs => Versions.ofJson_eq_ok_iff,
    fun e => Versions.ofJson_eq_error_iff⟩
  · cases h : Details.ofJson expected j with
    | ok d => exact .inl ⟨d, rfl⟩
    | error e => exact .inr ⟨e, rfl, Details.refusal_of_error h⟩
  · exact Details.ofJson_eq_unknownKind_iff
  · exact Details.ofJson_eq_kindMismatch_iff

end Credentials
