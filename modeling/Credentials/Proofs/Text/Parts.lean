import Credentials.Text.Blank
import Mathlib.Data.List.DropRight

/-!
# Parts of texts

What is taken away at both ends of a list is settled by what is left, which neither begins nor ends
with any of it (`rdropWhile_dropWhile_eq_iff`). Trimming a text does so with white space
(`trim_eq_iff`). A piece between separators holds none of them (`of_mem_splitOnP`).
-/

namespace Credentials.Text

/-! ## Lists without their ends -/

section

variable {p : Char → Bool}

/-- A list is another one with characters of `p` around it, of which it has none at its ends. -/
structure Strips (p : Char → Bool) (s t : List Char) : Prop where
  around : ∃ front back, s = front ++ t ++ back ∧
    (∀ c ∈ front, p c = true) ∧ ∀ c ∈ back, p c = true
  first : ∀ c ∈ t.head?, p c = false
  last : ∀ c ∈ t.getLast?, p c = false

theorem strips_dropWhile (p : Char → Bool) (s : List Char) :
    Strips p s ((s.dropWhile p).rdropWhile p) := by
  refine ⟨?_, fun c hc => ?_, fun c hc => ?_⟩
  · refine ⟨s.takeWhile p, (s.dropWhile p).rtakeWhile p, ?_,
      fun c hc => List.mem_takeWhile_imp hc, fun c hc => List.mem_rtakeWhile_imp hc⟩
    rw [List.append_assoc, List.rdropWhile_append_rtakeWhile, List.takeWhile_append_dropWhile]
  · obtain ⟨rest, hrest⟩ := List.rdropWhile_prefix p (s.dropWhile p)
    have hhead : (s.dropWhile p).head? = some c := by
      rw [← hrest, List.head?_append, Option.mem_def.1 hc]
      rfl
    simpa [hhead] using List.head?_dropWhile_not p s
  · have hne : (s.dropWhile p).rdropWhile p ≠ [] := by
      rintro hnil
      simp [hnil] at hc
    have hlast := List.rdropWhile_last_not p _ hne
    rw [List.getLast?_eq_some_getLast hne] at hc
    obtain rfl := Option.some.inj hc
    simpa using hlast

/-- There is only one way to strip a text at both ends. -/
theorem Strips.eq {s t : List Char} (h : Strips p s t) : (s.dropWhile p).rdropWhile p = t := by
  obtain ⟨⟨front, back, rfl, hfront, hback⟩, hfirst, hlast⟩ := h
  rw [List.append_assoc, List.dropWhile_append_of_pos hfront]
  cases t with
  | nil => rw [List.nil_append, List.dropWhile_eq_nil_iff.2 hback, List.rdropWhile_nil]
  | cons c t =>
    have hc : p c = false := hfirst c rfl
    have hback' : ∀ c ∈ back.reverse, p c = true := fun c h => hback c (List.mem_reverse.1 h)
    rw [List.cons_append, List.dropWhile_cons_of_neg (by simp [hc]), ← List.cons_append,
      List.rdropWhile, List.reverse_append, List.dropWhile_append_of_pos hback',
      ← List.rdropWhile, List.rdropWhile_eq_self_iff]
    intro hne
    simp [hlast _ (List.getLast?_eq_some_getLast hne)]

theorem rdropWhile_dropWhile_eq_iff {s t : List Char} :
    (s.dropWhile p).rdropWhile p = t ↔ Strips p s t := by
  constructor
  · rintro rfl
    exact strips_dropWhile p s
  · exact Strips.eq

theorem strips_nil_iff {s : List Char} : Strips p s [] ↔ ∀ c ∈ s, p c = true := by
  constructor
  · rintro ⟨⟨front, back, rfl, hfront, hback⟩, -, -⟩
    intro c hc
    rw [List.append_nil] at hc
    rcases List.mem_append.1 hc with hc | hc
    · exact hfront c hc
    · exact hback c hc
  · intro h
    exact ⟨⟨s, [], by simp, h, nofun⟩, nofun, nofun⟩

/-- What is put around a list goes away with its ends. -/
theorem Strips.extend {s t front back : List Char} (h : Strips p s t)
    (hfront : ∀ c ∈ front, p c = true) (hback : ∀ c ∈ back, p c = true) :
    Strips p (front ++ s ++ back) t := by
  obtain ⟨⟨a, b, rfl, ha, hb⟩, hfirst, hlast⟩ := h
  refine ⟨⟨front ++ a, b ++ back, by simp, ?_, ?_⟩, hfirst, hlast⟩
  · intro c hc
    rcases List.mem_append.1 hc with hc | hc
    · exact hfront c hc
    · exact ha c hc
  · intro c hc
    rcases List.mem_append.1 hc with hc | hc
    · exact hb c hc
    · exact hback c hc

end

/-! ## Trimmed texts -/

/-- A text is another one with white space around it, of which it has none at its ends. -/
structure Trims (s t : String) : Prop where
  around : ∃ front back, s.toList = front ++ t.toList ++ back ∧
    (∀ c ∈ front, isBlank c = true) ∧ ∀ c ∈ back, isBlank c = true
  first : ∀ c ∈ t.toList.head?, isBlank c = false
  last : ∀ c ∈ t.toList.getLast?, isBlank c = false

theorem toList_trim (s : String) :
    (trim s).toList = (s.toList.dropWhile isBlank).rdropWhile isBlank := by
  rw [trim, String.toList_ofList]
  rfl

theorem trims_iff {s t : String} : Trims s t ↔ Strips isBlank s.toList t.toList :=
  ⟨fun h => ⟨h.around, h.first, h.last⟩, fun h => ⟨h.around, h.first, h.last⟩⟩

/-- Trimming a text comes to what is left without the white space at its ends. -/
theorem trim_eq_iff {s t : String} : trim s = t ↔ Trims s t := by
  rw [trims_iff, ← rdropWhile_dropWhile_eq_iff, ← toList_trim, String.toList_inj]

theorem trims_trim (s : String) : Trims s (trim s) := trim_eq_iff.1 rfl

theorem Trims.ne_empty {s t : String} (h : Trims s t) (hne : t ≠ "") : s ≠ "" := by
  rintro rfl
  exact hne (trim_eq_iff.2 h).symm

/-! ## Pieces between separators -/

/-- A piece is made of the characters that do not separate. -/
theorem of_mem_splitOnP {p : Char → Bool} {s piece : List Char} (h : piece ∈ s.splitOnP p) :
    (∀ c ∈ piece, p c = false ∧ c ∈ s) ∧ piece.length ≤ s.length := by
  induction s generalizing piece with
  | nil =>
    rw [List.splitOnP_nil, List.mem_singleton] at h
    subst h
    exact ⟨nofun, Nat.le_refl _⟩
  | cons c s ih =>
    have hlater {piece : List Char} (h : piece ∈ s.splitOnP p) :
        (∀ d ∈ piece, p d = false ∧ d ∈ c :: s) ∧ piece.length ≤ s.length := by
      obtain ⟨hchars, hlength⟩ := ih h
      exact ⟨fun d hd => ⟨(hchars d hd).1, List.mem_cons_of_mem _ (hchars d hd).2⟩, hlength⟩
    rw [List.splitOnP_cons_eq_if_modifyHead] at h
    split at h
    · rcases List.mem_cons.1 h with rfl | h
      · exact ⟨nofun, Nat.zero_le _⟩
      · obtain ⟨hchars, hlength⟩ := hlater h
        exact ⟨hchars, hlength.trans (Nat.le_succ _)⟩
    · rename_i hc
      obtain ⟨first, others, hpieces⟩ := List.exists_cons_of_ne_nil (List.splitOnP_ne_nil p s)
      rw [hpieces, List.modifyHead_cons] at h
      rcases List.mem_cons.1 h with rfl | h
      · obtain ⟨hchars, hlength⟩ := hlater (show first ∈ s.splitOnP p by simp [hpieces])
        refine ⟨List.forall_mem_cons.2 ⟨⟨by simpa using hc, List.mem_cons_self⟩, hchars⟩, ?_⟩
        simpa using hlength
      · obtain ⟨hchars, hlength⟩ := hlater (show piece ∈ s.splitOnP p by simp [hpieces, h])
        exact ⟨hchars, hlength.trans (Nat.le_succ _)⟩

end Credentials.Text
