import Credentials.Permission
import Credentials.Proofs.Outcome

/-!
# Permissions are written as they are read

The text of an actor is read back unless the id is empty, and no other text is read as the actor
(`Actor.ofString_eq_ok_iff`); every other text is refused for one fault of it
(`Actor.ofString_eq_error_iff`). Granting operations one after the other keeps each of them at its
first place (`Permission.operations_allowAll_ofActor`), so that the operations of a permission make
the permission again (`Permission.allowAll_operations`).
-/

namespace Credentials

/-! ## Texts of actors -/

theorem cut?_eq_some_iff {c : Char} {s front back : List Char} :
    cut? c s = some (front, back) ↔ c ∉ front ∧ s = front ++ c :: back := by
  induction s generalizing front with
  | nil => simp [cut?]
  | cons a s ih =>
    rw [cut?]
    by_cases ha : a = c
    · subst ha
      rw [if_pos rfl]
      constructor
      · intro h
        cases h
        exact ⟨List.not_mem_nil, rfl⟩
      · rintro ⟨hfront, h⟩
        cases front with
        | nil => rw [List.nil_append, List.cons.injEq] at h; rw [h.2]
        | cons b front =>
          obtain ⟨rfl, -⟩ := List.cons.inj h
          exact absurd List.mem_cons_self hfront
    · rw [if_neg ha, Option.map_eq_some_iff]
      constructor
      · rintro ⟨⟨front', back'⟩, h, heq⟩
        cases heq
        obtain ⟨hfront, rfl⟩ := ih.1 h
        exact ⟨List.not_mem_cons_of_ne_of_not_mem (Ne.symm ha) hfront, rfl⟩
      · rintro ⟨hfront, h⟩
        cases front with
        | nil => exact absurd (List.cons.inj h).1 ha
        | cons b front =>
          obtain ⟨rfl, rfl⟩ := List.cons.inj h
          exact ⟨(front, back), ih.2 ⟨List.not_mem_of_not_mem_cons hfront, rfl⟩, rfl⟩

theorem Role.ofTag?_eq_some_iff {s : String} {r : Role} : Role.ofTag? s = some r ↔ s = r.tag := by
  constructor
  · intro h
    have htag := List.find?_some h
    exact (of_decide_eq_true htag).symm
  · rintro rfl
    cases r <;> decide

theorem Role.tag_injective {a b : Role} (h : a.tag = b.tag) : a = b :=
  Option.some.inj ((Role.ofTag?_eq_some_iff.2 rfl).symm.trans (Role.ofTag?_eq_some_iff.2 h))

/-- No word for a role holds a colon, so the first colon ends it. -/
theorem Role.colon_not_mem_tag (r : Role) : ':' ∉ r.tag.toList := by
  cases r <;> decide

namespace Actor

theorem toList_text (a : Actor) : a.text.toList = a.role.tag.toList ++ ':' :: a.id.toList := by
  rw [text, String.toList_append, String.toList_append, List.append_assoc]
  rfl

theorem cut?_text (a : Actor) : cut? ':' a.text.toList = some (a.role.tag.toList, a.id.toList) :=
  cut?_eq_some_iff.2 ⟨a.role.colon_not_mem_tag, a.toList_text⟩

/-- The role ends at the first colon, so the text settles the actor even if the id is empty. -/
theorem text_injective {a b : Actor} (h : a.text = b.text) : a = b := by
  have hcut := a.cut?_text.symm.trans ((congrArg (fun s => cut? ':' s.toList) h).trans b.cut?_text)
  obtain ⟨hrole, hid⟩ := Prod.mk.inj (Option.some.inj hcut)
  obtain ⟨role, id⟩ := a
  obtain ⟨role', id'⟩ := b
  obtain rfl : role = role' := Role.tag_injective (String.toList_injective hrole)
  obtain rfl : id = id' := String.toList_injective hid
  rfl

/-- Written and read back, an actor is the same, unless nothing stands behind the colon. -/
theorem ofString_text (a : Actor) :
    ofString a.text = if a.id = "" then .error (fault a.text .emptyId) else .ok a := by
  have hempty : a.id.toList.isEmpty = true ↔ a.id = "" := by
    rw [List.isEmpty_iff, String.toList_eq_nil_iff]
  unfold ofString
  simp only [cut?_text, hempty, String.ofList_toList, Role.ofTag?_eq_some_iff.2 rfl]

/-- Only the text of an actor is read as the actor. -/
theorem ofString_eq_ok_iff {input : String} {a : Actor} :
    ofString input = .ok a ↔ input = a.text ∧ a.id ≠ "" := by
  constructor
  · intro h
    have htext : input = a.text := by
      unfold ofString at h
      split at h
      · cases h
      · rename_i role id hcut
        split at h
        · cases h
        · split at h
          · cases h
          · rename_i r hr
            cases h
            obtain ⟨-, hinput⟩ := cut?_eq_some_iff.1 hcut
            rw [← String.toList_inj, toList_text, hinput, ← Role.ofTag?_eq_some_iff.1 hr,
              String.toList_ofList, String.toList_ofList]
    subst htext
    refine ⟨rfl, fun hid => ?_⟩
    rw [ofString_text, if_pos hid] at h
    cases h
  · rintro ⟨rfl, hid⟩
    rw [ofString_text, if_neg hid]

/-- Why a text names no actor; the role is what stands before the first colon. -/
inductive IsFaulty (input : String) : PermissionFault → Prop
  | noColon (h : ':' ∉ input.toList) : IsFaulty input .noColon
  | emptyId {role : List Char} (hrole : ':' ∉ role) (h : input.toList = role ++ [':']) :
      IsFaulty input .emptyId
  | unknownActor {role id : List Char} (hrole : ':' ∉ role) (h : input.toList = role ++ ':' :: id)
      (hid : id ≠ []) (hnone : ∀ r : Role, r.tag.toList ≠ role) : IsFaulty input .unknownActor

/-- A text with a fault is refused for it. -/
theorem IsFaulty.ofString_eq {input : String} {f : PermissionFault} (h : IsFaulty input f) :
    ofString input = .error (fault input f) := by
  unfold ofString
  cases h with
  | noColon h =>
    have hcut : cut? ':' input.toList = none := by
      cases hcut : cut? ':' input.toList with
      | none => rfl
      | some parts =>
        obtain ⟨-, hinput⟩ := cut?_eq_some_iff.1 hcut
        rw [hinput] at h
        exact absurd (List.mem_append_right _ List.mem_cons_self) h
    rw [hcut]
  | emptyId hrole h =>
    rw [cut?_eq_some_iff.2 ⟨hrole, h⟩]
    rfl
  | unknownActor hrole h hid hnone =>
    rw [cut?_eq_some_iff.2 ⟨hrole, h⟩]
    simp only [List.isEmpty_iff, hid, if_false]
    split
    · rfl
    · rename_i r hr
      refine absurd ?_ (hnone r)
      rw [← Role.ofTag?_eq_some_iff.1 hr, String.toList_ofList]

/-- A text that is refused has a fault. -/
theorem exists_isFaulty {input : String} {e : Error} (h : ofString input = .error e) :
    ∃ f, IsFaulty input f ∧ e = fault input f := by
  unfold ofString at h
  split at h
  · rename_i hcut
    cases h
    refine ⟨_, .noColon fun hmem => ?_, rfl⟩
    obtain ⟨front, back, hinput, hfront⟩ := List.eq_append_cons_of_mem hmem
    rw [cut?_eq_some_iff.2 ⟨hfront, hinput⟩] at hcut
    cases hcut
  · rename_i role id hcut
    obtain ⟨hrole, hinput⟩ := cut?_eq_some_iff.1 hcut
    split at h
    · rename_i hid
      cases h
      rw [List.isEmpty_iff.1 hid] at hinput
      exact ⟨_, .emptyId hrole hinput, rfl⟩
    · rename_i hid
      split at h
      · rename_i hnone
        cases h
        refine ⟨_, .unknownActor hrole hinput (fun hnil => hid (List.isEmpty_iff.2 hnil)) ?_, rfl⟩
        intro r hr
        rw [Role.ofTag?_eq_some_iff.2 (by rw [← hr, String.ofList_toList])] at hnone
        cases hnone
      · cases h

/-- A text that names no actor is refused for what is wrong with it. -/
theorem ofString_eq_error_iff {input : String} {e : Error} :
    ofString input = .error e ↔ ∃ f, IsFaulty input f ∧ e = fault input f := by
  constructor
  · exact exists_isFaulty
  · rintro ⟨f, hf, rfl⟩
    exact hf.ofString_eq

end Actor

/-! ## Operations -/

@[simp] theorem Operation.ofString_text (o : Operation) : Operation.ofString o.text = .ok o := by
  cases o <;> rfl

theorem Operation.ofString_eq_ok_iff {s : String} {o : Operation} :
    Operation.ofString s = .ok o ↔ s = o.text := by
  constructor
  · intro h
    unfold Operation.ofString at h
    split at h
    · rename_i found hfound
      cases h
      have htext := List.find?_some hfound
      exact (of_decide_eq_true htext).symm
    · cases h
  · rintro rfl
    exact o.ofString_text

/-- A text is refused as an operation if it is no word for one. -/
theorem Operation.ofString_eq_error_iff {s : String} {e : Error} :
    Operation.ofString s = .error e ↔
      (∀ o : Operation, s ≠ o.text) ∧ e = .validation (.invalidPermission s .unknownOperation) := by
  constructor
  · intro h
    refine ⟨fun o ho => ?_, ?_⟩
    · rw [Operation.ofString_eq_ok_iff.2 ho] at h
      cases h
    · unfold Operation.ofString at h
      split at h
      · cases h
      · cases h
        rfl
  · rintro ⟨hnone, rfl⟩
    unfold Operation.ofString
    split
    · rename_i found hfound
      have htext := List.find?_some hfound
      exact absurd (of_decide_eq_true htext).symm (hnone found)
    · rfl

namespace Permission

theorem eraseDups_eq_self {os : List Operation} (h : os.Nodup) : os.eraseDups = os := by
  induction os with
  | nil => rfl
  | cons o os ih =>
    obtain ⟨ho, hos⟩ := List.nodup_cons.1 h
    have hkeep : os.filter (fun b => !b == o) = os := by
      refine List.filter_eq_self.2 fun b hb => ?_
      have hne : b ≠ o := ne_of_mem_of_not_mem hb ho
      simpa using hne
    rw [List.eraseDups_cons, hkeep, ih hos]

/-- What is granted stands behind what was granted before: each operation that is new, at its first
place. -/
theorem operations_allowAll (p : Permission) (os : List Operation) :
    (p.allowAll os).operations = p.operations ++ (os.removeAll p.operations).eraseDups := by
  induction os generalizing p with
  | nil => simp [allowAll]
  | cons o os ih =>
    have hstep : p.allowAll (o :: os) = (p.allow o).allowAll os := rfl
    rw [hstep, ih]
    by_cases ho : o ∈ p.operations
    · have hallow : (p.allow o).operations = p.operations := if_pos ho
      simp [hallow, List.removeAll, ho]
    · -- The operation moves from the list that is to be granted to the end of what is granted.
      have hallow : (p.allow o).operations = p.operations ++ [o] := if_neg ho
      have hrest : os.removeAll (p.operations ++ [o]) =
          (os.removeAll p.operations).filter fun b => !b == o := by
        simp [List.removeAll, List.filter_filter, beq_eq_decide, Bool.and_comm]
      simp [hallow, hrest, List.cons_removeAll, ho, List.eraseDups_cons]

theorem actor_allowAll (p : Permission) (os : List Operation) :
    (p.allowAll os).actor = p.actor := by
  unfold allowAll
  induction os generalizing p with
  | nil => rfl
  | cons o os ih => exact ih (p.allow o)

/-- Operations granted one after the other are listed once, each at its first place. -/
theorem operations_allowAll_ofActor (a : Actor) (os : List Operation) :
    ((ofActor a).allowAll os).operations = os.eraseDups := by
  have hnone : (ofActor a).operations = [] := rfl
  rw [operations_allowAll, hnone, List.nil_append, List.removeAll_nil]

/-- A permission is what granting its operations one after the other makes. -/
theorem allowAll_operations (p : Permission) : (ofActor p.actor).allowAll p.operations = p := by
  apply Permission.ext
  · exact actor_allowAll _ _
  · rw [operations_allowAll_ofActor, eraseDups_eq_self p.nodup]

end Permission

end Credentials
