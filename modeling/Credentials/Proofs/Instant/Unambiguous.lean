import Credentials.Proofs.Instant.Render

/-!
# Different instants are written differently

The text of an instant is taken apart from its front: each number in it ends where the first
character stands that is no digit (`padded_append_inj`), a year with a sign differs from one without in
its first character (`renderYear_append_inj`), and the fraction that a text starts with is settled by
the text. So the text settles the instant, also where it is no timestamp that could be read back
(`render_injective`).
-/

namespace Credentials.Instant

/-- The text does not go on with a digit. -/
def EndsDigits (s : List Char) : Prop := ∀ c ∈ s.head?, c.isDigit = false

theorem endsDigits_cons {c : Char} (h : c.isDigit = false) (s : List Char) :
    EndsDigits (c :: s) := by
  intro d hd
  cases hd
  exact h

theorem takeWhile_padded_append {width n : Nat} {s : List Char} (hs : EndsDigits s) :
    (padded width n ++ s).takeWhile Char.isDigit = padded width n := by
  rw [List.takeWhile_append_of_pos fun c => isDigit_of_mem_padded]
  cases s with
  | nil => exact List.append_nil _
  | cons c s => rw [List.takeWhile_cons_of_neg (by simp [hs c rfl]), List.append_nil]

/-- Numbers are settled by the text that they start, whatever their widths. -/
theorem padded_append_inj {v w m n : Nat} {s t : List Char} (hs : EndsDigits s)
    (ht : EndsDigits t) (h : padded v m ++ s = padded w n ++ t) : m = n ∧ s = t := by
  have hdigits : padded v m = padded w n := by
    rw [← takeWhile_padded_append hs, h, takeWhile_padded_append ht]
  have hnumber : m = n := by
    rw [← decimal_padded v m, hdigits, decimal_padded]
  rw [hdigits] at h
  exact ⟨hnumber, List.append_cancel_left h⟩

/-- Two padded numbers of one width are equal if what follows them is no digit. -/
theorem padded_cons_inj {w m n : Nat} {c : Char} {s t : List Char} (hc : c.isDigit = false)
    (h : padded w m ++ c :: s = padded w n ++ c :: t) : m = n ∧ s = t := by
  obtain ⟨hnumber, hrest⟩ := padded_append_inj (endsDigits_cons hc s) (endsDigits_cons hc t) h
  exact ⟨hnumber, List.tail_eq_of_cons_eq hrest⟩

/-- The sign in front of a year. -/
def yearSign (y : Int) : List Char :=
  if 0 ≤ y ∧ y ≤ 9999 then [] else if y < 0 then ['-'] else ['+']

theorem renderYear_eq (y : Int) : renderYear y = yearSign y ++ padded 4 y.natAbs := by
  unfold renderYear yearSign
  split
  · rename_i h
    rw [List.nil_append, show y.toNat = y.natAbs by omega]
  · split <;> rfl

/-- The sign of a year is what stands in front of the first digit. -/
theorem takeWhile_renderYear_append (y : Int) (s : List Char) :
    (renderYear y ++ s).takeWhile (fun c => !c.isDigit) = yearSign y := by
  have hsign : ∀ c ∈ yearSign y, (!c.isDigit) = true := by
    intro c hc
    unfold yearSign at hc
    split at hc
    · cases hc
    · split at hc <;> rw [List.mem_singleton.1 hc] <;> rfl
  obtain ⟨d, ds, hds⟩ := List.exists_cons_of_length_pos
    (Nat.lt_of_lt_of_le (by decide) (le_length_padded 4 y.natAbs))
  have hd : d.isDigit = true := isDigit_of_mem_padded (hds ▸ List.mem_cons_self)
  rw [renderYear_eq, List.append_assoc, List.takeWhile_append_of_pos hsign, hds, List.cons_append,
    List.takeWhile_cons_of_neg (by simp [hd]), List.append_nil]

theorem yearSign_eq_minus_iff {y : Int} : yearSign y = ['-'] ↔ y < 0 := by
  unfold yearSign
  split
  · exact iff_of_false nofun (by omega)
  · split
    · exact iff_of_true rfl ‹_›
    · exact iff_of_false (by simp) ‹_›

/-- The year can be told from what is written behind it. -/
theorem renderYear_append_inj {y z : Int} {s t : List Char} (hs : EndsDigits s)
    (ht : EndsDigits t) (h : renderYear y ++ s = renderYear z ++ t) : y = z ∧ s = t := by
  have hsign : yearSign y = yearSign z := by
    rw [← takeWhile_renderYear_append y s, h, takeWhile_renderYear_append]
  have hnegative : y < 0 ↔ z < 0 := by
    rw [← yearSign_eq_minus_iff, hsign, yearSign_eq_minus_iff]
  rw [renderYear_eq, renderYear_eq, hsign, List.append_assoc, List.append_assoc] at h
  obtain ⟨hnumber, hrest⟩ := padded_append_inj hs ht (List.append_cancel_left h)
  exact ⟨by omega, hrest⟩

/-- The nanoseconds can be told from the fraction, whatever its width. -/
theorem renderFraction_append_inj {m n : Nat} (hm : m < 1000000000) (hn : n < 1000000000)
    (h : renderFraction m ++ ['Z'] = renderFraction n ++ ['Z']) : m = n := by
  have hread {k : Nat} (hk : k < 1000000000) :
      parseFraction (renderFraction k ++ ['Z']) = .ok (k, ['Z']) :=
    parseFraction_append (fractionText_render hk) rfl (by decide)
  have heq := (hread hm).symm.trans ((congrArg parseFraction h).trans (hread hn))
  exact congrArg Prod.fst (Except.ok.inj heq)

theorem endsDigits_renderFraction_append (n : Nat) : EndsDigits (renderFraction n ++ ['Z']) := by
  unfold renderFraction
  split
  · exact endsDigits_cons rfl _
  · split
    · exact endsDigits_cons rfl _
    · split <;> exact endsDigits_cons rfl _

/-- The text of an instant settles the instant. -/
theorem render_injective {i j : Instant} (h : i.render = j.render) : i = j := by
  have hchars : i.renderChars = j.renderChars := String.ofList_injective h
  simp only [renderChars, List.append_assoc, List.cons_append] at hchars
  obtain ⟨hyear, hchars⟩ := renderYear_append_inj (endsDigits_cons rfl _) (endsDigits_cons rfl _)
    hchars
  obtain ⟨hmonth, hchars⟩ := padded_cons_inj rfl (List.tail_eq_of_cons_eq hchars)
  obtain ⟨hday, hchars⟩ := padded_cons_inj rfl hchars
  obtain ⟨hhour, hchars⟩ := padded_cons_inj rfl hchars
  obtain ⟨hminute, hchars⟩ := padded_cons_inj rfl hchars
  obtain ⟨hsecond, hchars⟩ := padded_append_inj (endsDigits_renderFraction_append _)
    (endsDigits_renderFraction_append _) hchars
  have hfraction := renderFraction_append_inj (Nat.mod_lt _ (by decide)) (Nat.mod_lt _ (by decide))
    hchars
  have hdate : i.date = j.date := by
    rw [Date.mk.injEq]
    exact ⟨hyear, hmonth, hday⟩
  have hdays : i.seconds / 86400 = j.seconds / 86400 := by
    have hcount := congrArg Date.toDays hdate
    rwa [date, date, Date.toDays_ofDays, Date.toDays_ofDays] at hcount
  -- A leap second is written as second 60, which no other second of the day is.
  have hleap := i.leap_secondOfDay
  have hleap' := j.leap_secondOfDay
  apply eq_of_parts
  · unfold secondOfDay at hhour hminute hsecond hleap hleap'
    omega
  · omega

end Credentials.Instant
