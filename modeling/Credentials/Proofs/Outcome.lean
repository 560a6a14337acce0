import Mathlib.Data.List.Forall2

/-!
# Outcomes of sequenced readers

A reader that is made of readers succeeds exactly when they all do, and fails as the first of them
that does: `bind_eq_ok_iff` for two readers in sequence, `mapM_eq_ok_iff` and `mapM_eq_error_iff`
for one reader along a list. When a reader gives back just the things with `P` that were written,
the same holds along lists (`mapM_map_eq_ok_iff`, `mapM_map_eq_error_iff`).
-/

namespace Credentials

variable {ε α β : Type}

theorem ok_bind (a : α) (f : α → Except ε β) : (Except.ok a >>= f) = f a := rfl

/-- Two readers in sequence succeed if the first one does, and then the second. -/
theorem bind_eq_ok_iff {x : Except ε α} {f : α → Except ε β} {b : β} :
    (x >>= f) = .ok b ↔ ∃ a, x = .ok a ∧ f a = .ok b := by
  cases x with
  | error e => simp [bind, Except.bind]
  | ok a => simp [bind, Except.bind]

theorem bind_eq_error_iff {x : Except ε α} {f : α → Except ε β} {e : ε} :
    (x >>= f) = .error e ↔ x = .error e ∨ ∃ a, x = .ok a ∧ f a = .error e := by
  cases x with
  | error e' => simp [bind, Except.bind]
  | ok a => simp [bind, Except.bind]

theorem map_eq_ok_iff {x : Except ε α} {f : α → β} {b : β} :
    x.map f = .ok b ↔ ∃ a, x = .ok a ∧ f a = b := by
  cases x with
  | error e => simp [Except.map]
  | ok a => simp [Except.map]

theorem map_eq_error_iff {x : Except ε α} {f : α → β} {e : ε} :
    x.map f = .error e ↔ x = .error e := by
  cases x with
  | error e' => simp [Except.map]
  | ok a => simp [Except.map]

/-- A reader succeeds along a list exactly when it succeeds at every place. -/
theorem mapM_eq_ok_iff {f : α → Except ε β} {xs : List α} {ys : List β} :
    xs.mapM f = .ok ys ↔ List.Forall₂ (fun x y => f x = .ok y) xs ys := by
  induction xs generalizing ys with
  | nil =>
    rw [List.forall₂_nil_left_iff]
    exact ⟨fun h => (Except.ok.inj h).symm, fun h => congrArg Except.ok h.symm⟩
  | cons x xs ih =>
    rw [List.mapM_cons, bind_eq_ok_iff, List.forall₂_cons_left_iff]
    constructor
    · rintro ⟨y, hy, h⟩
      obtain ⟨zs, hzs, h⟩ := bind_eq_ok_iff.1 h
      exact ⟨y, zs, hy, ih.1 hzs, (Except.ok.inj h).symm⟩
    · rintro ⟨y, zs, hy, hzs, rfl⟩
      exact ⟨y, hy, bind_eq_ok_iff.2 ⟨zs, ih.2 hzs, rfl⟩⟩

/-- A reader fails along a list as it does at the first place where it fails. -/
theorem mapM_eq_error_iff {f : α → Except ε β} {xs : List α} {e : ε} :
    xs.mapM f = .error e ↔
      ∃ before x after, xs = before ++ x :: after ∧ (∀ a ∈ before, ∃ b, f a = .ok b) ∧
        f x = .error e := by
  induction xs with
  | nil =>
    constructor
    · intro h
      cases h
    · rintro ⟨before, x, after, h, -⟩
      simp at h
  | cons a as ih =>
    rw [List.mapM_cons, bind_eq_error_iff]
    constructor
    · rintro (h | ⟨b, hb, h⟩)
      · exact ⟨[], a, as, rfl, by simp, h⟩
      · rcases bind_eq_error_iff.1 h with h | ⟨bs, -, h⟩
        · obtain ⟨before, x, after, rfl, hbefore, hx⟩ := ih.1 h
          exact ⟨a :: before, x, after, rfl, List.forall_mem_cons.2 ⟨⟨b, hb⟩, hbefore⟩, hx⟩
        · cases h
    · rintro ⟨before, x, after, h, hbefore, hx⟩
      cases before with
      | nil =>
        obtain ⟨rfl, rfl⟩ := List.cons.inj h
        exact .inl hx
      | cons a' before =>
        obtain ⟨rfl, rfl⟩ := List.cons.inj h
        obtain ⟨⟨b, hb⟩, hbefore⟩ := List.forall_mem_cons.1 hbefore
        refine .inr ⟨b, hb, bind_eq_error_iff.2 (.inl (ih.2 ?_))⟩
        exact ⟨before, x, after, rfl, hbefore, hx⟩

theorem exists_mem_of_forall₂ {R : α → β → Prop} {xs : List α} {ys : List β}
    (h : List.Forall₂ R xs ys) {y : β} (hy : y ∈ ys) : ∃ x ∈ xs, R x y := by
  induction h with
  | nil => cases hy
  | cons hr _ ih =>
    rcases List.mem_cons.1 hy with rfl | hy
    · exact ⟨_, List.mem_cons_self, hr⟩
    · obtain ⟨x, hx, hr⟩ := ih hy
      exact ⟨x, List.mem_cons_of_mem _ hx, hr⟩

/-! ## Written lists -/

section

variable {write : β → α} {read : α → Except ε β} {P : β → Prop}

theorem forall₂_eq_and_iff {xs ys : List β} :
    List.Forall₂ (fun x y => y = x ∧ P x) xs ys ↔ ys = xs ∧ ∀ x ∈ xs, P x := by
  induction xs generalizing ys with
  | nil => simp
  | cons x xs ih =>
    rw [List.forall₂_cons_left_iff, List.forall_mem_cons]
    constructor
    · rintro ⟨y, zs, ⟨rfl, hx⟩, hzs, rfl⟩
      obtain ⟨rfl, hxs⟩ := ih.1 hzs
      exact ⟨rfl, hx, hxs⟩
    · rintro ⟨rfl, hx, hxs⟩
      exact ⟨x, xs, ⟨rfl, hx⟩, ih.2 ⟨rfl, hxs⟩, rfl⟩

/-- A list is read back as it was exactly if every item is. -/
theorem mapM_map_eq_ok_iff (h : ∀ x y, read (write x) = .ok y ↔ y = x ∧ P x) {xs ys : List β} :
    (xs.map write).mapM read = .ok ys ↔ ys = xs ∧ ∀ x ∈ xs, P x := by
  simp only [mapM_eq_ok_iff, List.forall₂_map_left_iff, h, forall₂_eq_and_iff]

/-- A list is not read back for the first item that is not. -/
theorem mapM_map_eq_error_iff (h : ∀ x y, read (write x) = .ok y ↔ y = x ∧ P x) {xs : List β}
    {e : ε} :
    (xs.map write).mapM read = .error e ↔
      ∃ before x after, xs = before ++ x :: after ∧ (∀ a ∈ before, P a) ∧
        read (write x) = .error e := by
  rw [mapM_eq_error_iff]
  constructor
  · rintro ⟨before, x, after, hxs, hbefore, hx⟩
    obtain ⟨before, rest, rfl, rfl, hrest⟩ := List.map_eq_append_iff.1 hxs
    obtain ⟨x, after, rfl, rfl, rfl⟩ := List.map_eq_cons_iff.1 hrest
    refine ⟨before, x, after, rfl, fun a ha => ?_, hx⟩
    obtain ⟨b, hb⟩ := hbefore (write a) (List.mem_map_of_mem ha)
    exact ((h a b).1 hb).2
  · rintro ⟨before, x, after, rfl, hbefore, hx⟩
    refine ⟨before.map write, write x, after.map write, by simp, fun a ha => ?_, hx⟩
    obtain ⟨b, hb, rfl⟩ := List.mem_map.1 ha
    exact ⟨b, (h b b).2 ⟨rfl, hbefore b hb⟩⟩

end

end Credentials
