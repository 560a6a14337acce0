import Credentials.Json.Reader
import Credentials.Json.Writer
import Credentials.Proofs.Instant.Render

/-!
# Written strings and whole numbers are read back

The readers of strings and numbers undo the writer, whatever follows in the text: a string ends at
its own quote (`chars_quote`), and a number ends where a character stands that cannot go on with it
(`numberFrom_toDigits`). Every character survives, since what the writer escapes is read as the
character it stands for (`chars_escapeChar`), and every whole number of 64 bits does, since its
digits never exceed the significand (`takeDigits_of_lt`).
-/

namespace Credentials.Json

/-! ## Strings -/

theorem hexValue?_lowerHex {n : Nat} (h : n < 16) : Text.hexValue? (Text.lowerHex n) = some n :=
  (by decide : ∀ m ∈ List.range 16, Text.hexValue? (Text.lowerHex m) = some m) n
    (List.mem_range.2 h)

/-- The four digits of a control character are read as its code. -/
theorem fourHex_control {n : Nat} (h : n < 32) (rest : List Char) :
    fourHex ('0' :: '0' :: Text.lowerHex (n / 16) :: Text.lowerHex (n % 16) :: rest) =
      .ok (n, rest) := by
  have hsize := Instant.length_le_byteCount
    ('0' :: '0' :: Text.lowerHex (n / 16) :: Text.lowerHex (n % 16) :: rest)
  simp only [List.length_cons] at hsize
  have hzero : Text.hexValue? '0' = some 0 := by decide
  have hvalue : ((0 * 16 + 0) * 16 + n / 16) * 16 + n % 16 = n := by omega
  unfold fourHex
  rw [if_neg (by omega)]
  simp only [hzero, hexValue?_lowerHex (show n / 16 < 16 by omega),
    hexValue?_lowerHex (show n % 16 < 16 by omega), hvalue]

/-- A control character is read back from its four digits. -/
theorem unicodeEscape_control {c : Char} (h : c.toNat < 32) (rest : List Char) :
    unicodeEscape
        ('0' :: '0' :: Text.lowerHex (c.toNat / 16) :: Text.lowerHex (c.toNat % 16) :: rest) =
      .ok (c, rest) := by
  have htrailing : isTrailing c.toNat = false := by
    simp only [isTrailing, Bool.and_eq_false_iff, decide_eq_false_iff_not]
    omega
  have hleading : isLeading c.toNat = false := by
    simp only [isLeading, Bool.and_eq_false_iff, decide_eq_false_iff_not]
    omega
  unfold unicodeEscape
  simp only [fourHex_control h, htrailing, hleading, Bool.false_eq_true, if_false, Char.ofNat_toNat]

/-- What the writer puts down for a character is read as that character. -/
theorem chars_escapeChar (n : Nat) (c : Char) (rest : List Char) :
    chars (n + 1) (escapeChar c ++ rest) = (chars n rest).map fun r => (c :: r.1, r.2) := by
  unfold escapeChar
  -- Seven characters have a letter or sign of their own behind the backslash.
  iterate 7
    split
    · subst c
      rfl
  split
  · rename_i hcontrol
    simp only [List.cons_append, List.nil_append, chars, escape, unicodeEscape_control hcontrol]
  · rename_i hquote hbackslash _ _ _ _ _ hcontrol
    rw [List.singleton_append, chars]
    · exact if_neg hcontrol
    · exact hquote
    · exact hbackslash

/-- A text is read back from its escapes, up to the quotation mark. -/
theorem chars_flatMap_escapeChar {n : Nat} {s : List Char} (h : s.length < n) (rest : List Char) :
    chars n (s.flatMap escapeChar ++ '"' :: rest) = .ok (s, rest) := by
  induction s generalizing n with
  | nil =>
    obtain ⟨m, rfl⟩ := Nat.exists_eq_succ_of_ne_zero (Nat.ne_of_gt h)
    rfl
  | cons c s ih =>
    obtain ⟨m, rfl⟩ := Nat.exists_eq_succ_of_ne_zero (Nat.ne_zero_of_lt h)
    have hm : s.length < m := by
      rw [List.length_cons] at h
      omega
    rw [List.flatMap_cons, List.append_assoc, chars_escapeChar, ih hm]
    rfl

theorem length_le_flatMap_escapeChar (s : List Char) :
    s.length ≤ (s.flatMap escapeChar).length := by
  induction s with
  | nil => exact Nat.le_refl 0
  | cons c s ih =>
    have hpos : 0 < (escapeChar c).length := by
      unfold escapeChar
      repeat' split
      all_goals exact Nat.succ_pos _
    rw [List.flatMap_cons, List.length_append, List.length_cons]
    omega

theorem quote_append (s : String) (rest : List Char) :
    quote s ++ rest = '"' :: (s.toList.flatMap escapeChar ++ '"' :: rest) := by
  simp [quote]

/-- A written string is read back behind its opening quote, if there are steps for its text. -/
theorem chars_quote {n : Nat} {s : String} (h : (quote s).length ≤ n + 1) (rest : List Char) :
    chars n (s.toList.flatMap escapeChar ++ '"' :: rest) = .ok (s.toList, rest) := by
  have hlength := length_le_flatMap_escapeChar s.toList
  refine chars_flatMap_escapeChar ?_ rest
  simp only [quote, List.length_append, List.length_cons, List.length_nil] at h
  omega

/-! ## Whole numbers -/

/-- The text cannot go on with a number. -/
def EndsNumber (rest : List Char) : Prop :=
  ∀ c ∈ rest.head?, c.isDigit = false ∧ c ≠ '.' ∧ c ≠ 'e' ∧ c ≠ 'E'

/-- Digits are taken up to the end while what they write fits. -/
theorem takeDigits_of_lt {s : Nat} {cs : List Char}
    (h : cs.foldl (fun n c => n * 10 + Text.digitValue c) s < 2 ^ 64) :
    takeDigits s cs = (cs.foldl (fun n c => n * 10 + Text.digitValue c) s, []) := by
  induction cs generalizing s with
  | nil => rfl
  | cons c cs ih =>
    -- The significand only grows, so a step that does not fit is never made good.
    have hgrows : ∀ (ds : List Char) (m : Nat),
        m ≤ ds.foldl (fun n c => n * 10 + Text.digitValue c) m := by
      intro ds
      induction ds with
      | nil => exact fun m => Nat.le_refl m
      | cons d ds ihd =>
        intro m
        have := ihd (m * 10 + Text.digitValue d)
        rw [List.foldl_cons]
        omega
    rw [List.foldl_cons] at h ⊢
    have hfits : s * 10 + Text.digitValue c < 2 ^ 64 := Nat.lt_of_le_of_lt (hgrows cs _) h
    rw [takeDigits, if_pos hfits]
    exact ih h

theorem isDigit_of_mem_toDigits {m : Nat} {c : Char} (h : c ∈ Nat.toDigits 10 m) :
    c.isDigit = true :=
  Nat.isDigit_of_mem_toDigits (by decide) (by decide) h

theorem decimal_toDigits (m : Nat) : Text.decimal (Nat.toDigits 10 m) = m := by
  rw [Instant.decimal_eq_ofDigitChars, Nat.ofDigitChars_ten_toDigits]

/-- A whole number of 64 bits is read back without losing digits. -/
theorem takeDigits_toDigits {m : Nat} (h : m < 2 ^ 64) :
    takeDigits 0 (Nat.toDigits 10 m) = (m, []) := by
  have hvalue := decimal_toDigits m
  rw [takeDigits_of_lt (by rwa [← Text.decimal, hvalue]), ← Text.decimal, hvalue]

/-- The digits of a number do not begin with a zero unless there is no other digit. -/
theorem exists_toDigits (m : Nat) :
    ∃ d ds, Nat.toDigits 10 m = d :: ds ∧ (d = '0' → ds = []) := by
  have hdigits : ∀ c ∈ Nat.toDigits 10 m, c.isDigit = true := fun _ hc => isDigit_of_mem_toDigits hc
  have hvalue := decimal_toDigits m
  cases hm : Nat.toDigits 10 m with
  | nil => exact absurd hm Nat.toDigits_ne_nil
  | cons d ds =>
    refine ⟨d, ds, rfl, fun hd => ?_⟩
    subst hd
    rw [hm] at hdigits hvalue
    -- Without the zero the number is the same, so the fewest digits that write it leave it out.
    have hlt : m < 10 ^ ds.length := by
      have := Instant.decimal_lt fun c hc => hdigits c (List.mem_cons_of_mem _ hc)
      rwa [← hvalue]
    by_contra hne
    have hpos : 0 < ds.length := List.length_pos_of_ne_nil hne
    have hle := (Nat.length_toDigits_le_iff (b := 10) (by decide) hpos).2 hlt
    rw [hm, List.length_cons] at hle
    omega

theorem EndsNumber.takeWhile {rest : List Char} (h : EndsNumber rest) :
    rest.takeWhile Char.isDigit = [] := by
  cases rest with
  | nil => rfl
  | cons c rest => exact List.takeWhile_cons_of_neg (by simp [(h c rfl).1])

theorem EndsNumber.dropWhile {rest : List Char} (h : EndsNumber rest) :
    rest.dropWhile Char.isDigit = rest := by
  cases rest with
  | nil => rfl
  | cons c rest => exact List.dropWhile_cons_of_neg (by simp [(h c rfl).1])

theorem afterWhole_of_endsNumber {negative : Bool} {m : Nat} {n : Integer} {rest : List Char}
    (hn : n.val = if negative then -(m : Int) else m) (hm : negative = true → m ≠ 0)
    (hrest : EndsNumber rest) : afterWhole negative m 0 rest = .ok (.integer n, rest) := by
  have hzero : ¬ (negative = true ∧ m = 0) := fun h => hm h.1 h.2
  have hfits : Integer.ofInt? (if negative then -(m : Int) else m) = some n := by
    rw [← hn, Integer.ofInt?, dif_pos ⟨n.ge, n.lt⟩]
  unfold afterWhole
  split
  · exact absurd rfl (hrest '.' rfl).2.1
  · exact absurd rfl (hrest 'e' rfl).2.2.1
  · exact absurd rfl (hrest 'E' rfl).2.2.2
  · rw [if_neg (by simp), if_neg hzero, hfits]

/-- A written whole number is read back behind its sign. -/
theorem numberFrom_toDigits {negative : Bool} {m : Nat} {n : Integer} {rest : List Char}
    (hn : n.val = if negative then -(m : Int) else m) (hm : negative = true → m ≠ 0)
    (hrest : EndsNumber rest) :
    numberFrom negative (Nat.toDigits 10 m ++ rest) = .ok (.integer n, rest) := by
  have hdigits : ∀ c ∈ Nat.toDigits 10 m, c.isDigit = true := fun _ hc => isDigit_of_mem_toDigits hc
  have hlt : m < 2 ^ 64 := by
    have hge := n.ge
    have hlt := n.lt
    cases negative <;> simp only [Bool.false_eq_true, if_false, if_true] at hn <;> omega
  have htake : (Nat.toDigits 10 m ++ rest).takeWhile Char.isDigit = Nat.toDigits 10 m := by
    rw [List.takeWhile_append_of_pos hdigits, hrest.takeWhile, List.append_nil]
  have hdrop : (Nat.toDigits 10 m ++ rest).dropWhile Char.isDigit = rest := by
    rw [List.dropWhile_append_of_pos hdigits, hrest.dropWhile]
  obtain ⟨d, ds, hds, hlead⟩ := exists_toDigits m
  have hd : d.isDigit = true := hdigits d (by simp [hds])
  have hnext : ¬ (d = '0' ∧ (ds ++ rest).head?.any Char.isDigit = true) := by
    rintro ⟨hzero, hany⟩
    rw [hlead hzero, List.nil_append, Option.any_eq_true] at hany
    obtain ⟨c, hc, hdigit⟩ := hany
    rw [(hrest c hc).1] at hdigit
    cases hdigit
  rw [hds, List.cons_append] at htake hdrop ⊢
  unfold numberFrom
  simp only [hd, if_true, if_neg hnext, htake, hdrop]
  rw [← hds, takeDigits_toDigits hlt]
  exact afterWhole_of_endsNumber hn hm hrest

end Credentials.Json
