import Credentials.Proofs.Instant.Grammar

/-!
# Written timestamps are read back

The text of an instant is a timestamp of it exactly when its year takes four digits: `parse_render`
is the whole story of writing an instant and reading the text. The other direction is not closed
under this condition: an offset moves the instants of a few accepted timestamps out of the years 0
to 9999, but never further than into the neighbouring year (`year_mem_of_parse`).
-/

namespace Credentials

namespace Instant

/-- The year takes four digits. -/
def FourDigitYear (i : Instant) : Prop := 0 ≤ i.year ∧ i.year ≤ 9999

instance (i : Instant) : Decidable i.FourDigitYear := inferInstanceAs (Decidable (_ ∧ _))

/-! ## Numbers filled with zeros -/

theorem decimal_eq_ofDigitChars (s : List Char) : Text.decimal s = Nat.ofDigitChars 10 s 0 := by
  rw [Nat.ofDigitChars_eq_foldl, Text.decimal]
  congr
  funext n c
  rw [Text.digitValue, Nat.mul_comm]

theorem isDigit_of_mem_padded {width n : Nat} {c : Char} (h : c ∈ padded width n) :
    c.isDigit = true := by
  rcases List.mem_append.1 h with h | h
  · obtain ⟨-, rfl⟩ := List.mem_replicate.1 h
    rfl
  · exact Nat.isDigit_of_mem_toDigits (by decide) (by decide) h

/-- A padded number is read as the number. -/
theorem decimal_padded (width n : Nat) : Text.decimal (padded width n) = n := by
  rw [decimal_eq_ofDigitChars, padded, Nat.ofDigitChars_append, Nat.ofDigitChars_replicate_zero,
    Nat.mul_zero, Nat.ofDigitChars_ten_toDigits]

theorem length_padded {width n : Nat} (hpos : 0 < width) (h : n < 10 ^ width) :
    (padded width n).length = width := by
  have hle := (Nat.length_toDigits_le_iff (b := 10) (by decide) hpos).2 h
  rw [padded, List.length_append, List.length_replicate]
  omega

theorem le_length_padded (width n : Nat) : width ≤ (padded width n).length := by
  rw [padded, List.length_append, List.length_replicate]
  omega

theorem twoDigits_padded {n : Nat} (h : n < 100) : TwoDigits (padded 2 n) n := by
  obtain ⟨a, b, hab⟩ := List.length_eq_two.1 (length_padded (by decide) h)
  have hdecimal := decimal_padded 2 n
  have hdigits : ∀ c ∈ padded 2 n, c.isDigit = true := fun c => isDigit_of_mem_padded
  rw [hab] at hdecimal hdigits
  refine ⟨a, b, hdigits a (by simp), hdigits b (by simp), hab, ?_⟩
  simpa [Text.decimal] using hdecimal.symm

theorem exists_twoDigits_padded {n : Nat} (h : n < 10000) : ∃ cs ys century year,
    TwoDigits cs century ∧ TwoDigits ys year ∧ padded 4 n = cs ++ ys ∧
      n = century * 100 + year := by
  have hlength : (padded 4 n).length = 4 := length_padded (by decide) h
  have hdecimal := decimal_padded 4 n
  have hdigits : ∀ c ∈ padded 4 n, c.isDigit = true := fun c => isDigit_of_mem_padded
  obtain ⟨a, b, c, d, hchars⟩ := List.length_eq_four.1 hlength
  rw [hchars] at hdecimal hdigits
  refine ⟨[a, b], [c, d], _, _, ⟨a, b, hdigits a (by simp), hdigits b (by simp), rfl, rfl⟩,
    ⟨c, d, hdigits c (by simp), hdigits d (by simp), rfl, rfl⟩, hchars, ?_⟩
  simp only [Text.decimal, List.foldl_cons, List.foldl_nil] at hdecimal
  omega

theorem fractionText_padded (width n : Nat) (hpos : 0 < width) (hwidth : width ≤ 9)
    (h : n < 10 ^ width) : FractionText ('.' :: padded width n) (n * 10 ^ (9 - width)) := by
  have hlength := length_padded hpos h
  have hne : padded width n ≠ [] := List.ne_nil_of_length_pos (by omega)
  have htake : (padded width n).take 9 = padded width n := List.take_of_length_le (by omega)
  have htext := FractionText.digits hne fun c => isDigit_of_mem_padded
  rwa [htake, decimal_padded, hlength] at htext

/-- The fraction that is written is one of the grammar, for the same number of nanoseconds. -/
theorem fractionText_render {n : Nat} (h : n < 1000000000) : FractionText (renderFraction n) n := by
  unfold renderFraction
  split
  · rename_i hzero
    rw [hzero]
    exact .none
  split
  · have htext := fractionText_padded 3 (n / 1000000) (by decide) (by decide) (by omega)
    rwa [show n / 1000000 * 10 ^ (9 - 3) = n by omega] at htext
  split
  · have htext := fractionText_padded 6 (n / 1000) (by decide) (by decide) (by omega)
    rwa [show n / 1000 * 10 ^ (9 - 6) = n by omega] at htext
  · have htext := fractionText_padded 9 n (by decide) (by decide) (by omega)
    rwa [show n * 10 ^ (9 - 9) = n by omega] at htext

/-! ## Instants -/

theorem eq_of_parts {i j : Instant} (hs : i.seconds = j.seconds) (hn : i.nanos = j.nanos) :
    i = j := by
  cases i; cases j; cases hs; cases hn; rfl

/-- The reading that the text of an instant spells. -/
def ownReading (i : Instant) : Reading :=
  ⟨i.date, i.secondOfDay / 3600, i.secondOfDay / 60 % 60,
    i.secondOfDay % 60 + i.nanos / 1000000000, i.nanos % 1000000000, 0⟩

/-- In a leap second the second before it is the last of its minute. -/
theorem leap_secondOfDay (i : Instant) :
    i.nanos / 1000000000 = 0 ∨ i.nanos / 1000000000 = 1 ∧ i.secondOfDay % 60 = 59 := by
  have := i.nanos_lt
  by_cases hleap : 1000000000 ≤ i.nanos
  · have := i.leap hleap
    unfold secondOfDay
    omega
  · omega

theorem valid_ownReading {i : Instant} (h : i.FourDigitYear) : i.ownReading.Valid := by
  have hleap := i.leap_secondOfDay
  have hday : i.secondOfDay < 86400 := by
    unfold secondOfDay
    omega
  constructor
  · exact Date.isValid_ofDays _
  · exact h
  all_goals
    simp only [ownReading]
    omega

/-- An instant is what its own text says. -/
theorem instant_ownReading {i : Instant} (h : i.FourDigitYear) :
    i.ownReading.instant (valid_ownReading h) = i := by
  have hleap := i.leap_secondOfDay
  apply eq_of_parts
  · have hdays : i.date.toDays = i.seconds / 86400 := Date.toDays_ofDays _
    simp only [Reading.instant, Reading.seconds, ownReading, hdays]
    unfold secondOfDay at hleap ⊢
    omega
  · have hsecond : i.ownReading.second = i.secondOfDay % 60 + i.nanos / 1000000000 := rfl
    have hnanos : i.ownReading.nanos = i.nanos % 1000000000 := rfl
    change i.ownReading.fraction = i.nanos
    rw [Reading.fraction]
    split <;> omega

theorem dateText_render {d : Date} (hvalid : d.isValid = true) (h : 0 ≤ d.year ∧ d.year ≤ 9999) :
    DateText (renderYear d.year ++ '-' :: (padded 2 d.month ++ '-' :: padded 2 d.day)) d := by
  obtain ⟨y, m, day⟩ := d
  obtain ⟨-, hm, -, hday⟩ := Date.isValid_iff.1 hvalid
  have hday31 := Nat.le_trans hday (Date.daysInMonth_le _ _)
  simp only at h hm hday31 ⊢
  obtain ⟨cs, ys, century, year, hc, hy, hchars, hyear⟩ :=
    exists_twoDigits_padded (n := y.toNat) (by omega)
  rw [renderYear, if_pos h, hchars, List.append_assoc]
  have hdate : (y : Int) = century * 100 + year := by omega
  rw [hdate]
  exact .mk hc hy (twoDigits_padded (by omega)) (twoDigits_padded (by omega))

/-- An instant with a year of four digits is written as the grammar wants it. -/
theorem spells_renderChars {i : Instant} (h : i.FourDigitYear) :
    Spells i.renderChars i.ownReading := by
  have hr := valid_ownReading h
  have hdate := dateText_render hr.date hr.year
  have hhour := twoDigits_padded (Nat.lt_trans hr.hour (by decide))
  have hminute := twoDigits_padded (Nat.lt_trans hr.minute (by decide))
  have hsecond := twoDigits_padded (Nat.lt_of_le_of_lt hr.second (by decide))
  have htext := Spells.mk hdate (.inl rfl) hhour hminute hsecond (fractionText_render hr.nanos)
    (.utc (.inl rfl))
  simpa [renderChars, ownReading] using htext

/-- Any other year is written with a sign, with which no timestamp starts. -/
theorem exists_renderYear_of_not {y : Int} (h : ¬ (0 ≤ y ∧ y ≤ 9999)) :
    ∃ c s, renderYear y = c :: s ∧ c.isDigit = false ∧ 4 ≤ s.length := by
  have hlength : 4 ≤ (padded 4 y.natAbs).length := le_length_padded 4 _
  rw [renderYear, if_neg h]
  split
  · exact ⟨'-', _, rfl, rfl, hlength⟩
  · exact ⟨'+', _, rfl, rfl, hlength⟩

/-- A year without four digits is written with a sign, which is not read. -/
theorem parse_render_of_not {i : Instant} (h : ¬ i.FourDigitYear) :
    parse i.render = .error .invalid := by
  obtain ⟨c, s, hyear, hc, hlength⟩ := exists_renderYear_of_not (y := i.date.year) h
  have hsize : ¬ Text.Utf8.byteCount i.renderChars < 19 := by
    have hbytes := length_le_byteCount i.renderChars
    have := le_length_padded 2 i.date.month
    have := le_length_padded 2 i.date.day
    have := le_length_padded 2 (i.secondOfDay / 3600)
    have := le_length_padded 2 (i.secondOfDay / 60 % 60)
    have := le_length_padded 2 (i.secondOfDay % 60 + i.nanos / 1000000000)
    have htext : 19 ≤ i.renderChars.length := by
      simp only [renderChars, hyear, List.length_append, List.length_cons]
      omega
    omega
  rw [parse, render, String.toList_ofList, parseChars, if_neg hsize]
  simp only [renderChars, hyear, List.cons_append, parseDate, twoDigits, digit, hc]
  rfl

/-- Writing an instant and reading the text gives it back if its year takes four digits, and fails
if not. -/
theorem parse_render (i : Instant) :
    parse i.render = if i.FourDigitYear then .ok i else .error .invalid := by
  split
  · rename_i h
    rw [parse_eq_ok_iff]
    refine ⟨i.ownReading, valid_ownReading h, ?_, instant_ownReading h⟩
    rw [render, String.toList_ofList]
    exact spells_renderChars h
  · rename_i h
    exact parse_render_of_not h

/-! ## Years of accepted timestamps -/

/-- The offset of a timestamp is less than a day, so the instant lies in the year that is written or
in one of its neighbours. -/
theorem year_mem_of_parse {s : String} {i : Instant} (h : parse s = .ok i) :
    -1 ≤ i.year ∧ i.year ≤ 10000 := by
  obtain ⟨r, hr, -, rfl⟩ := parse_eq_ok_iff.1 h
  obtain ⟨hfirst, hlast⟩ := Date.toDays_mem_year hr.date
  have hfirst' : Date.firstDay 0 ≤ Date.firstDay r.date.year := Date.firstDay_mono hr.year.1
  have hlast' : Date.firstDay (r.date.year + 1) ≤ Date.firstDay 10000 :=
    Date.firstDay_mono (by have := hr.year.2; omega)
  have hday : r.date.toDays - 1 ≤ r.seconds / 86400 ∧ r.seconds / 86400 ≤ r.date.toDays + 1 := by
    have := hr.hour
    have := hr.minute
    have := hr.offset
    unfold Reading.seconds
    omega
  have hzero : Date.firstDay (-1) + 365 = Date.firstDay 0 := rfl
  have htop : Date.firstDay 10000 + 366 = Date.firstDay 10001 := rfl
  constructor
  · exact Date.le_year_ofDays.2 (by simp only [Reading.instant]; omega)
  · have hlt : ¬ 10001 ≤ (r.instant hr).year := by
      intro hle
      have := Date.le_year_ofDays.1 hle
      simp only [Reading.instant] at this
      omega
    omega

end Instant

end Credentials
