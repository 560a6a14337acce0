import Credentials.Instant.Basic

/-!
# The calendar counts days

`Date.ofDays` finds the date of a day and `Date.toDays` counts the days up to a date. Main
statements: every day has a date that exists (`isValid_ofDays`), counting up to it gives the day
back (`toDays_ofDays`), and a day lies in the year `y` or later exactly when it is not before the
first day of `y` (`le_year_ofDays`).

Both directions go through years that start in March: an era of 400 such years splits into centuries
of 36524 days, cycles of 1461 days and years of 365 days, and a day is left over at the end of some
of them.
-/

namespace Credentials.Date

/-! ## Years from March -/

/-- The date of the day `r` of the year that starts in the March of `y`. -/
def ofMarchYear (y r : Int) : Date :=
  let m := (5 * r + 2) / 153
  let month := if m < 10 then m + 3 else m - 9
  ⟨y + (if month ≤ 2 then 1 else 0), month.toNat, (r - (153 * m + 2) / 5 + 1).toNat⟩

/-- A day exists in the year from March on if it is among the first 365, or the year ends in a leap
year. -/
def IsDayOfMarchYear (y r : Int) : Prop := 0 ≤ r ∧ (r ≤ 364 ∨ r = 365 ∧ isLeapYear (y + 1) = true)

/-- The rule of leap years, by remainders. -/
theorem isLeapYear_iff {y : Int} :
    isLeapYear y = true ↔ y % 4 = 0 ∧ (y % 100 ≠ 0 ∨ y % 400 = 0) := by
  simp [isLeapYear]

theorem toDays_ofMarchYear {y r : Int} (h : IsDayOfMarchYear y r) :
    (ofMarchYear y r).toDays = 365 * y + y / 4 - y / 100 + y / 400 + r - 719468 := by
  obtain ⟨h0, h1⟩ := h
  have hr : r ≤ 365 := by omega
  clear h1
  simp only [ofMarchYear, toDays]
  by_cases hm : (5 * r + 2) / 153 < 10
  · simp only [hm, if_true]
    rw [if_neg (by omega), if_neg (by omega), if_neg (by omega)]
    omega
  · simp only [hm, if_false]
    rw [if_pos (by omega), if_pos (by omega), if_pos (by omega)]
    have hy : y + 1 - 1 = y := by omega
    rw [hy]
    omega

/-- A date is valid if its month and its day exist. -/
theorem isValid_iff {d : Date} : d.isValid = true ↔
    1 ≤ d.month ∧ d.month ≤ 12 ∧ 1 ≤ d.day ∧ d.day ≤ daysInMonth d.year d.month := by
  simp [isValid, and_assoc]

theorem daysInMonth_le (y : Int) (m : Nat) : daysInMonth y m ≤ 31 := by
  unfold daysInMonth
  repeat' split
  all_goals omega

theorem isValid_ofMarchYear {y r : Int} (h : IsDayOfMarchYear y r) :
    (ofMarchYear y r).isValid = true := by
  obtain ⟨h0, h1⟩ := h
  rw [isValid_iff]
  by_cases hm : (5 * r + 2) / 153 < 10
  · have hfeb : ((5 * r + 2) / 153 + 3).toNat ≠ 2 := by omega
    simp only [ofMarchYear, hm, if_true, daysInMonth, hfeb, if_false]
    refine ⟨by omega, by omega, by omega, ?_⟩
    split <;> omega
  · by_cases hjan : (5 * r + 2) / 153 = 10
    · simp [ofMarchYear, hjan, daysInMonth]
      omega
    · have hfeb : (5 * r + 2) / 153 = 11 := by omega
      have hdate : ofMarchYear y r = ⟨y + 1, 2, (r - 337 + 1).toNat⟩ := by
        simp only [ofMarchYear, hfeb]
        rfl
      have hday : r - 337 + 1 ≤ daysInMonth (y + 1) 2 := by
        rcases h1 with h1 | ⟨rfl, hleap⟩
        · simp only [daysInMonth, if_true]
          split <;> omega
        · simp [daysInMonth, hleap]
      rw [hdate]
      exact ⟨by simp, by simp, by simp only; omega, by simp only; omega⟩

/-! ## Days of an era -/

/-- The day `d` of an era is the day `r` of the year `k` of the cycle `q` of the century `c`. Only
the last year of a cycle may have a day more, and the last cycle of a century has it in the last
century alone. -/
structure IsSplit (d c q k r : Int) : Prop where
  eq : d = 36524 * c + 1461 * q + 365 * k + r
  century : 0 ≤ c ∧ c ≤ 3
  cycle : 0 ≤ q ∧ q ≤ 24
  year : 0 ≤ k ∧ k ≤ 3
  day : 0 ≤ r ∧ r ≤ 365
  last : r = 365 → k = 3 ∧ (q = 24 → c = 3)

/-- Every day of an era has its century, its four years, its year and its place in it. -/
theorem exists_isSplit {d : Int} (h0 : 0 ≤ d) (h1 : d < 146097) : ∃ c q k r, IsSplit d c q k r := by
  by_cases hera : d = 146096
  · exact ⟨3, 24, 3, 365, by omega, by omega, by omega, by omega, by omega, by omega⟩
  · by_cases hcycle : d % 36524 % 1461 = 1460
    · exact ⟨d / 36524, d % 36524 / 1461, 3, 365, by omega, by omega, by omega, by omega, by omega,
        by omega⟩
    · exact ⟨d / 36524, d % 36524 / 1461, d % 36524 % 1461 / 365, d % 36524 % 1461 % 365,
        by omega, by omega, by omega, by omega, by omega, by omega⟩

namespace IsSplit

variable {d c q k r : Int} (h : IsSplit d c q k r)
include h

/-- The year of an era, found by dividing out the days that leap years add. -/
theorem yearOfEra : (d - d / 1460 + d / 36524 - d / 146096) / 365 = 100 * c + 4 * q + k := by
  obtain ⟨heq, hc, hq, hk, hr, hlast⟩ := h
  by_cases hera : d = 146096
  · subst hera
    omega
  · have hcenturies : d / 36524 = c := by omega
    have heras : d / 146096 = 0 := by omega
    have hcycles : d / 1460 = 25 * c + q + (24 * c + q + 365 * k + r) / 1460 := by omega
    rw [hcenturies, heras, hcycles, heq]
    omega

theorem isDayOfMarchYear (era : Int) :
    IsDayOfMarchYear (100 * c + 4 * q + k + era * 400) r := by
  obtain ⟨-, hc, hq, hk, hr, hlast⟩ := h
  refine ⟨hr.1, ?_⟩
  by_cases hr' : r = 365
  · obtain ⟨rfl, hcentury⟩ := hlast hr'
    exact .inr ⟨hr', isLeapYear_iff.2 (by omega)⟩
  · exact .inl (by omega)

end IsSplit

/-- The date of a day is found in its era. -/
theorem exists_ofDays (n : Int) : ∃ y r, IsDayOfMarchYear y r ∧ ofDays n = ofMarchYear y r ∧
    365 * y + y / 4 - y / 100 + y / 400 + r - 719468 = n := by
  obtain ⟨c, q, k, r, h⟩ := exists_isSplit (d := (n + 719468) % 146097) (by omega) (by omega)
  have hcycles : (100 * c + 4 * q + k) / 4 = 25 * c + q := by
    have := h.year
    omega
  have hcenturies : (100 * c + 4 * q + k) / 100 = c := by
    have := h.year
    have := h.cycle
    omega
  refine ⟨100 * c + 4 * q + k + (n + 719468) / 146097 * 400, r, h.isDayOfMarchYear _, ?_, ?_⟩
  · have hday : (n + 719468) % 146097 - (365 * (100 * c + 4 * q + k) + (25 * c + q) - c) = r := by
      rw [h.eq]
      omega
    simp only [ofDays, h.yearOfEra, hcycles, hcenturies, hday, ofMarchYear]
  · have heq := h.eq
    have := h.century
    omega

/-- Counting the days up to the date of a day gives the day back. -/
@[simp] theorem toDays_ofDays (n : Int) : (ofDays n).toDays = n := by
  obtain ⟨y, r, h, hdate, hn⟩ := exists_ofDays n
  rw [hdate, toDays_ofMarchYear h, hn]

/-- Every day has a date that exists. -/
theorem isValid_ofDays (n : Int) : (ofDays n).isValid = true := by
  obtain ⟨y, r, h, hdate, -⟩ := exists_ofDays n
  rw [hdate]
  exact isValid_ofMarchYear h

/-! ## Years as ranges of days -/

/-- The first day of a year. -/
def firstDay (y : Int) : Int := toDays ⟨y, 1, 1⟩

/-- How many days lie before a year. -/
theorem firstDay_eq (y : Int) :
    firstDay y = 365 * (y - 1) + (y - 1) / 4 - (y - 1) / 100 + (y - 1) / 400 - 719162 := by
  simp only [firstDay, toDays]
  rw [if_pos (by decide), if_pos (by decide)]
  omega

theorem firstDay_mono {y z : Int} (h : y ≤ z) : firstDay y ≤ firstDay z := by
  rw [firstDay_eq, firstDay_eq]
  have h4 : (y - 1) / 4 ≤ (z - 1) / 4 := by omega
  have h100 : (z - 1) / 100 ≤ (y - 1) / 100 + (z - y) := by omega
  have h400 : (y - 1) / 400 ≤ (z - 1) / 400 := by omega
  omega

/-- A year has 365 days, and one more in leap years. -/
theorem firstDay_succ (y : Int) :
    firstDay (y + 1) = firstDay y + 365 + (if isLeapYear y then 1 else 0) := by
  have hy : y + 1 - 1 = y := by omega
  rw [firstDay_eq, firstDay_eq, hy]
  by_cases hleap : isLeapYear y = true
  · rw [if_pos hleap]
    rw [isLeapYear_iff] at hleap
    omega
  · rw [if_neg hleap]
    rw [isLeapYear_iff] at hleap
    omega

/-- A date that exists lies between the first day of its year and that of the next. -/
theorem toDays_mem_year {d : Date} (h : d.isValid = true) :
    firstDay d.year ≤ d.toDays ∧ d.toDays < firstDay (d.year + 1) := by
  obtain ⟨y, m, day⟩ := d
  obtain ⟨hm1, hm12, hday1, hday⟩ := isValid_iff.1 h
  simp only at hm1 hm12 hday1 hday ⊢
  have hday31 : day ≤ 31 := Nat.le_trans hday (daysInMonth_le y m)
  by_cases hm : m ≤ 2
  · have hdays : toDays ⟨y, m, day⟩ = firstDay y + 31 * (m - 1) + day - 1 := by
      simp only [toDays, hm, if_true, firstDay_eq]
      omega
    have hfeb : m = 2 → (day : Int) ≤ 28 + (if isLeapYear y then 1 else 0) := by
      rintro rfl
      simp only [daysInMonth, if_true] at hday
      by_cases hleap : isLeapYear y = true
      · rw [if_pos hleap] at hday ⊢
        omega
      · rw [if_neg hleap] at hday ⊢
        omega
    rw [firstDay_succ, hdays]
    constructor
    · omega
    · split at hfeb <;> omega
  · -- From March on the months are counted towards the end of the year.
    have hdays : toDays ⟨y, m, day⟩ =
        firstDay (y + 1) - 306 + (153 * (m - 3) + 2) / 5 + day - 1 := by
      have hy : y + 1 - 1 = y := by omega
      simp only [toDays, hm, if_false, firstDay_eq, hy]
      omega
    have hsucc : firstDay y + 365 ≤ firstDay (y + 1) := by
      rw [firstDay_succ]
      split <;> omega
    rw [hdays]
    constructor <;> omega

/-- A day lies in the year `y` or later exactly when it is not before the first day of `y`. -/
theorem le_year_ofDays {y n : Int} : y ≤ (ofDays n).year ↔ firstDay y ≤ n := by
  have hmem := toDays_mem_year (isValid_ofDays n)
  rw [toDays_ofDays] at hmem
  constructor
  · intro h
    exact Int.le_trans (firstDay_mono h) hmem.1
  · intro h
    apply Int.not_lt.1
    intro hlt
    have hnext : firstDay ((ofDays n).year + 1) ≤ firstDay y := firstDay_mono (by omega)
    omega

end Credentials.Date
