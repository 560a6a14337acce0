import Credentials.Proofs.Json.Members
import Credentials.Proofs.Outcome
import Credentials.Json.Reader

/-!
# How deep read values nest

No value that is read from a text nests deeper than a text may (`depth_le_of_read`): whatever the
reader has room for when it starts on a value bounds the depth of the value, and a repeated key only
replaces one value of that depth by another.
-/

namespace Credentials.Json

theorem eq_of_word {j k : Json} {ws s rest : List Char} (h : word j ws s = .ok (k, rest)) :
    k = j := by
  induction ws generalizing s with
  | nil =>
    cases h
    rfl
  | cons w ws ih =>
    cases s with
    | nil => cases h
    | cons c s =>
      rw [word] at h
      split at h
      · exact ih h
      · cases h

theorem depth_le_of_map {α : Type} {x : Step α} {f : α → Json} {rest : List Char} {j : Json}
    {n : Nat} (h : (x.map fun r => (f r.1, r.2)) = .ok (j, rest))
    (hf : ∀ a, x = .ok (a, rest) → (f a).depth ≤ n) : j.depth ≤ n := by
  obtain ⟨⟨a, s⟩, ha, heq⟩ := map_eq_ok_iff.1 h
  cases heq
  exact hf a ha

mutual

/-- A value that is read nests no deeper than there is room. -/
theorem depth_le_of_value {n room : Nat} {s rest : List Char} {j : Json}
    (h : value n room s = .ok (j, rest)) : j.depth ≤ room := by
  cases n with
  | zero => cases h
  | succ n =>
    rw [value] at h
    split at h
    · cases h
    · rw [eq_of_word h]
      exact Nat.zero_le _
    · rw [eq_of_word h]
      exact Nat.zero_le _
    · rw [eq_of_word h]
      exact Nat.zero_le _
    · exact depth_le_of_map (f := number) h fun _ _ => Nat.zero_le _
    · exact depth_le_of_map (f := fun s => string (String.ofList s)) h fun _ _ => Nat.zero_le _
    · cases room with
      | zero => cases h
      | succ room =>
        refine depth_le_of_map (f := array) h fun js hitems => ?_
        exact depth_array_le_iff.2 (depth_le_of_items hitems)
    · cases room with
      | zero => cases h
      | succ room =>
        refine depth_le_of_map (f := object) h fun o hmembers => ?_
        exact depth_object_le_iff.2 (depth_le_of_members hmembers nofun)
    · split at h
      · exact depth_le_of_map (f := number) h fun _ _ => Nat.zero_le _
      · cases h

/-- The items of an array that is read nest no deeper than there is room. -/
theorem depth_le_of_items {n room : Nat} {first : Bool} {s rest : List Char} {js : List Json}
    (h : items n room first s = .ok (js, rest)) : ∀ j ∈ js, j.depth ≤ room := by
  cases n with
  | zero => cases h
  | succ n =>
    rw [items] at h
    split at h
    · cases h
    · cases h
      exact nofun
    · split at h
      · cases h
      · rename_i v s hvalue
        obtain ⟨a, hitems, ha⟩ := map_eq_ok_iff.1 h
        cases ha
        rw [List.forall_mem_cons]
        exact ⟨depth_le_of_value hvalue, depth_le_of_items hitems⟩

/-- The members of an object that is read nest no deeper than there is room. -/
theorem depth_le_of_members {n room : Nat} {first : Bool} {s rest : List Char} {o p : Object}
    (h : members n room first o s = .ok (p, rest)) (ho : ∀ m ∈ o.toList, m.2.depth ≤ room) :
    ∀ m ∈ p.toList, m.2.depth ≤ room := by
  cases n with
  | zero => cases h
  | succ n =>
    rw [members] at h
    split at h
    · cases h
    · cases h
      exact ho
    · split at h
      · cases h
      · split at h
        · cases h
        · rename_i v s hvalue
          refine depth_le_of_members h fun m hm => ?_
          rcases Object.mem_insertInto hm with hvalue' | hm
          · rw [hvalue']
            exact depth_le_of_value hvalue
          · exact ho m hm

end

/-- A value that is read nests no deeper than a text may. -/
theorem depth_le_of_read {text : String} {j : Json} (h : read text = .ok j) :
    j.depth ≤ maxDepth := by
  unfold read document at h
  split at h
  · cases h
  · rename_i v rest hvalue
    split at h
    · cases h
      exact depth_le_of_value hvalue
    · cases h

end Credentials.Json
