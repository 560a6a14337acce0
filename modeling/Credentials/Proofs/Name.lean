import Credentials.Name
import Mathlib.Data.List.TakeWhile

/-!
# Names are canonical

`Name.ofString?` replaces the leading separators of a text by one and keeps the rest
(`ofString?_eq_some_iff`), so it refuses just the texts that have no other character
(`ofString?_eq_none_iff`), and the text of a name stands for the name itself (`ofString?_text`). Two
texts stand for the same name when only their leading separators differ (`ofString?_eq_iff`).
-/

namespace Credentials

/-- The name has one separator in place of those that the text starts with, and the same rest. -/
def Name.Normalizes (n : Name) (raw : String) : Prop :=
  ∃ k rest, raw.toList = List.replicate k separator ++ rest ∧ n.text.toList = separator :: rest

namespace Name

theorem isSeparator_iff {c : Char} : isSeparator c = true ↔ c = separator := beq_iff_eq

theorem dropWhile_replicate_append (k : Nat) {c : Char} (r : List Char) (hc : c ≠ separator) :
    (List.replicate k separator ++ c :: r).dropWhile isSeparator = c :: r := by
  have hk : ∀ a ∈ List.replicate k separator, isSeparator a = true := fun a ha =>
    isSeparator_iff.2 (List.mem_replicate.1 ha).2
  rw [List.dropWhile_append_of_pos hk, List.dropWhile_cons_of_neg (by simpa [isSeparator] using hc)]

theorem exists_replicate_append_dropWhile (s : List Char) :
    ∃ k, s = List.replicate k separator ++ s.dropWhile isSeparator := by
  have hall : ∀ c ∈ s.takeWhile isSeparator, c = separator := fun c hc =>
    isSeparator_iff.1 (List.mem_takeWhile_imp hc)
  refine ⟨(s.takeWhile isSeparator).length, ?_⟩
  rw [← List.eq_replicate_of_mem hall]
  exact List.takeWhile_append_dropWhile.symm

theorem toList_of_dropWhile {raw : String} {c : Char} {r : List Char}
    (h : raw.toList.dropWhile isSeparator = c :: r) :
    ∃ n, ofString? raw = some n ∧ n.text.toList = separator :: c :: r := by
  unfold ofString?
  split
  · rename_i hnil
    rw [hnil] at h
    cases h
  · rename_i c' r' hcons
    rw [hcons] at h
    cases h
    exact ⟨_, rfl, String.toList_ofList⟩

/-- A text gives the name that normalizes it. -/
theorem ofString?_eq_some_iff {raw : String} {n : Name} :
    ofString? raw = some n ↔ n.Normalizes raw := by
  constructor
  · intro h
    cases hrest : raw.toList.dropWhile isSeparator with
    | nil =>
      unfold ofString? at h
      split at h
      · cases h
      · rename_i hcons
        rw [hcons] at hrest
        cases hrest
    | cons c r =>
      obtain ⟨m, hm, htext⟩ := toList_of_dropWhile hrest
      rw [hm] at h
      cases h
      obtain ⟨k, hk⟩ := exists_replicate_append_dropWhile raw.toList
      exact ⟨k, c :: r, hrest ▸ hk, htext⟩
  · rintro ⟨k, rest, hraw, htext⟩
    obtain ⟨c, r, hcanonical, hc⟩ := n.canonical
    rw [hcanonical] at htext
    cases htext
    have hrest : raw.toList.dropWhile isSeparator = c :: r := by
      rw [hraw, dropWhile_replicate_append k r hc]
    obtain ⟨m, hm, hmtext⟩ := toList_of_dropWhile hrest
    rw [hm, Option.some.injEq]
    exact Name.ext (String.toList_inj.1 (hmtext.trans hcanonical.symm))

/-- A text stands for no name exactly when it is made of separators. -/
theorem ofString?_eq_none_iff {raw : String} :
    ofString? raw = none ↔ ∀ c ∈ raw.toList, c = separator := by
  constructor
  · intro h
    cases hrest : raw.toList.dropWhile isSeparator with
    | nil => exact fun c hc => isSeparator_iff.1 (List.dropWhile_eq_nil_iff.1 hrest c hc)
    | cons c r =>
      obtain ⟨n, hn, -⟩ := toList_of_dropWhile hrest
      rw [h] at hn
      cases hn
  · intro h
    cases hn : ofString? raw with
    | none => rfl
    | some n =>
      obtain ⟨k, rest, hraw, htext⟩ := ofString?_eq_some_iff.1 hn
      obtain ⟨c, r, hcanonical, hc⟩ := n.canonical
      rw [hcanonical] at htext
      cases htext
      exact absurd (h c (by simp [hraw])) hc

/-- Any number of separators in front of a text stand for one, and the rest is kept. -/
theorem ofString?_eq_some_iff_cons {raw : String} {n : Name} :
    ofString? raw = some n ↔ ∃ k c rest, c ≠ separator ∧
      raw.toList = List.replicate k separator ++ c :: rest ∧
      n.text.toList = separator :: c :: rest := by
  rw [ofString?_eq_some_iff]
  constructor
  · rintro ⟨k, rest, hraw, htext⟩
    obtain ⟨c, r, hcanonical, hc⟩ := n.canonical
    rw [htext, List.cons.injEq] at hcanonical
    obtain ⟨-, rfl⟩ := hcanonical
    exact ⟨k, c, r, hc, hraw, htext⟩
  · rintro ⟨k, c, rest, -, hraw, htext⟩
    exact ⟨k, c :: rest, hraw, htext⟩

/-- A name is its text without the separators in front, behind one of them. -/
theorem ofString?_eq_some_iff_dropWhile {raw : String} {n : Name} :
    ofString? raw = some n ↔ n.text.toList = separator :: raw.toList.dropWhile isSeparator := by
  constructor
  · intro h
    obtain ⟨k, c, rest, hc, hraw, htext⟩ := ofString?_eq_some_iff_cons.1 h
    rw [htext, hraw, dropWhile_replicate_append k rest hc]
  · intro h
    obtain ⟨k, hraw⟩ := exists_replicate_append_dropWhile raw.toList
    exact ofString?_eq_some_iff.2 ⟨k, _, hraw, h⟩

theorem ofString?_eq_none_iff_dropWhile {raw : String} :
    ofString? raw = none ↔ raw.toList.dropWhile isSeparator = [] := by
  rw [ofString?_eq_none_iff, List.dropWhile_eq_nil_iff]
  simp only [isSeparator_iff]

/-- Texts stand for the same name, or both for none, when they differ in leading separators only. -/
theorem ofString?_eq_iff {a b : String} :
    ofString? a = ofString? b ↔
      a.toList.dropWhile isSeparator = b.toList.dropWhile isSeparator := by
  constructor
  · intro h
    cases hb : ofString? b with
    | none =>
      rw [hb, ofString?_eq_none_iff_dropWhile] at h
      rw [h, ofString?_eq_none_iff_dropWhile.1 hb]
    | some n =>
      rw [hb, ofString?_eq_some_iff_dropWhile] at h
      rw [ofString?_eq_some_iff_dropWhile, h, List.cons.injEq] at hb
      exact hb.2
  · intro h
    apply Option.ext
    intro n
    rw [ofString?_eq_some_iff_dropWhile, ofString?_eq_some_iff_dropWhile, h]

/-- The text of a name stands for the name. -/
@[simp] theorem ofString?_text (n : Name) : ofString? n.text = some n := by
  obtain ⟨c, r, htext, -⟩ := n.canonical
  exact ofString?_eq_some_iff.2 ⟨1, c :: r, htext, htext⟩

end Name

/-- What follows a canonical beginning does not matter. -/
theorem IsCanonical.append {s : String} (h : IsCanonical s) (t : String) :
    IsCanonical (s ++ t) := by
  obtain ⟨c, r, hs, hc⟩ := h
  exact ⟨c, r ++ t.toList, by simp [hs], hc⟩

theorem isCanonical_k : IsCanonical "/k" := ⟨'k', [], rfl, by decide⟩

end Credentials
