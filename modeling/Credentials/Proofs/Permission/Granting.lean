import Credentials.Proofs.Permission

/-!
# Granting step after step

A step grants one operation, or several in a row. One operation is a row of one, and rows that follow
each other are one row (`allowAll_append`), so that a run of steps grants the operations of all its
steps in a row (`after_eq`). What stands where is then settled by a single law about rows,
`operations_allowAll`. Main statement: `granting_keeps_first_places`.
-/

namespace Credentials

/-- A step of granting. -/
inductive Granting
  | one (o : Operation)
  | several (os : List Operation)

def Granting.operations : Granting → List Operation
  | one o => [o]
  | several os => os

namespace Permission

def grant (p : Permission) : Granting → Permission
  | .one o => p.allow o
  | .several os => p.allowAll os

/-- Takes steps one after the other. -/
def after (p : Permission) (steps : List Granting) : Permission := steps.foldl grant p

/-! ## Rows of operations -/

theorem allowAll_append (p : Permission) (xs ys : List Operation) :
    p.allowAll (xs ++ ys) = (p.allowAll xs).allowAll ys := List.foldl_append

theorem allowAll_singleton (p : Permission) (o : Operation) : p.allowAll [o] = p.allow o := rfl

/-- Granting adds behind what is granted already. -/
theorem prefix_allowAll (p : Permission) (os : List Operation) :
    p.operations <+: (p.allowAll os).operations := by
  rw [operations_allowAll]
  exact List.prefix_append _ _

theorem removeAll_eq_nil_iff {xs ys : List Operation} : xs.removeAll ys = [] ↔ xs ⊆ ys := by
  simp [List.removeAll, List.filter_eq_nil_iff, List.subset_def]

/-- Granting changes nothing exactly when everything was granted before. -/
theorem allowAll_eq_self_iff {p : Permission} {os : List Operation} :
    p.allowAll os = p ↔ os ⊆ p.operations := by
  have hoperations := operations_allowAll p os
  constructor
  · intro h
    rw [h, List.self_eq_append_right] at hoperations
    intro o ho
    by_contra hnew
    have hmem : o ∈ (os.removeAll p.operations).eraseDups := by
      simp [List.mem_eraseDups, List.removeAll, ho, hnew]
    rw [hoperations] at hmem
    cases hmem
  · intro h
    apply Permission.ext
    · exact actor_allowAll p os
    · rw [hoperations, removeAll_eq_nil_iff.2 h, List.eraseDups_nil, List.append_nil]

/-! ## Steps -/

theorem grant_eq (p : Permission) (g : Granting) : p.grant g = p.allowAll g.operations := by
  cases g with
  | one o => exact (p.allowAll_singleton o).symm
  | several os => rfl

/-- A run grants what its steps grant, in a row. -/
theorem after_eq (p : Permission) (steps : List Granting) :
    p.after steps = p.allowAll (steps.flatMap Granting.operations) := by
  induction steps generalizing p with
  | nil => rfl
  | cons g steps ih =>
    have hstep : p.after (g :: steps) = (p.grant g).after steps := rfl
    rw [hstep, ih, grant_eq, List.flatMap_cons, allowAll_append]

/-- Steps of granting may be taken in two goes. -/
theorem after_append (p : Permission) (earlier later : List Granting) :
    p.after (earlier ++ later) = (p.after earlier).after later := List.foldl_append

/-- However operations are granted, each is listed once, at the place of its first occurrence, and
nobody else gets them. The list only ever grows at its end, rows may be cut and put together at will,
and nothing changes exactly when everything was granted before. -/
theorem granting_keeps_first_places (a : Actor) :
    (∀ steps : List Granting,
      ((ofActor a).after steps).actor = a ∧
        ((ofActor a).after steps).operations = (steps.flatMap Granting.operations).eraseDups ∧
        ((ofActor a).after steps).operations.Nodup ∧
        ∀ o, o ∈ ((ofActor a).after steps).operations ↔ ∃ g ∈ steps, o ∈ g.operations) ∧
      (∀ (p : Permission) (earlier later : List Granting),
        (p.after earlier).operations <+: (p.after (earlier ++ later)).operations) ∧
      (∀ (p : Permission) (xs ys : List Operation),
        (p.allowAll xs).allowAll ys = p.allowAll (xs ++ ys)) ∧
      (∀ (p : Permission) (o : Operation), p.allow o = p ↔ o ∈ p.operations) ∧
      ∀ (p : Permission) (os : List Operation), p.allowAll os = p ↔ os ⊆ p.operations := by
  refine ⟨?_, ?_, ?_, ?_, fun p os => allowAll_eq_self_iff⟩
  · intro steps
    have hoperations : ((ofActor a).after steps).operations =
        (steps.flatMap Granting.operations).eraseDups := by
      rw [after_eq, operations_allowAll_ofActor]
    refine ⟨?_, hoperations, Permission.nodup _, fun o => ?_⟩
    · rw [after_eq, actor_allowAll]
      rfl
    · rw [hoperations, List.mem_eraseDups, List.mem_flatMap]
  · intro p earlier later
    rw [after_append, after_eq (p.after earlier)]
    exact prefix_allowAll _ _
  · intro p xs ys
    exact (p.allowAll_append xs ys).symm
  · intro p o
    rw [← allowAll_singleton, allowAll_eq_self_iff, List.cons_subset, and_iff_left (List.nil_subset _)]

end Permission

end Credentials
