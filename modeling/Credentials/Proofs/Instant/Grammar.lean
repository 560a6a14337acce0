import Credentials.Instant.Rfc3339
import Credentials.Proofs.Instant.Calendar
import Credentials.Proofs.Outcome
import Mathlib.Data.List.Induction
import Mathlib.Data.List.TakeWhile

/-!
# The grammar of timestamps

`Spells s r` says that the text `s` states the date, the time of day and the offset that the reading
`r` holds, and `Reading.instant` is the moment that a reading names once its parts lie in their
ranges. Main statement: `Instant.parse` accepts exactly the texts that are spelled this way, with
the instant of their reading (`parse_eq_ok_iff`).

Each reader of a part is first shown to take exactly the texts of its part off the front
(`twoDigits_eq_ok_iff`, `parseDate_eq_ok_iff`, `parseOffset_eq_ok_iff`). Fractions are the
exception: they end where the digits end, so their reader is complete only in front of something
that is no digit, and an offset always is (`OffsetText.exists_cons`).
-/

namespace Credentials

namespace Instant

/-! ## Readings -/

/-- What a timestamp states: a local date and time of day, and how many minutes they are ahead of
UTC. -/
structure Reading where
  date : Date
  hour : Nat
  minute : Nat
  second : Nat
  nanos : Nat
  offset : Int

namespace Reading

/-- The parts of a reading lie in their ranges; the second 60 is a leap second. -/
structure Valid (r : Reading) : Prop where
  date : r.date.isValid = true
  year : 0 ≤ r.date.year ∧ r.date.year ≤ 9999
  hour : r.hour < 24
  minute : r.minute < 60
  second : r.second ≤ 60
  nanos : r.nanos < 1000000000
  offset : r.offset.natAbs < 1440

/-- Seconds since the start of 1970 in UTC; a leap second belongs to the second before it. -/
def seconds (r : Reading) : Int :=
  r.date.toDays * 86400 + ((r.hour * 60 + r.minute) * 60 + min r.second 59 : Nat) - r.offset * 60

/-- The fraction, counted from the start of the second before in a leap second. -/
def fraction (r : Reading) : Nat := if r.second = 60 then 1000000000 + r.nanos else r.nanos

/-- The instant that a reading names. -/
def instant (r : Reading) (h : r.Valid) : Instant where
  seconds := r.seconds
  nanos := r.fraction
  nanos_lt := by
    have := h.nanos
    unfold fraction
    split <;> omega
  leap := by
    have := h.nanos
    unfold fraction seconds
    split <;> omega

end Reading

/-! ## Texts -/

/-- Two digits write a number below 100. -/
def TwoDigits (w : List Char) (n : Nat) : Prop :=
  ∃ a b, a.isDigit = true ∧ b.isDigit = true ∧ w = [a, b] ∧
    n = Text.digitValue a * 10 + Text.digitValue b

/-- A fraction of a second in nanoseconds: nothing, or a point and digits, of which nine count. -/
inductive FractionText : List Char → Nat → Prop
  | none : FractionText [] 0
  | digits {ds : List Char} (hne : ds ≠ []) (hds : ∀ c ∈ ds, c.isDigit = true) :
      FractionText ('.' :: ds) (Text.decimal (ds.take 9) * 10 ^ (9 - (ds.take 9).length))

/-- An offset from UTC in minutes; the minus sign may be the mathematical one. -/
inductive OffsetText : List Char → Int → Prop
  | utc {c : Char} (hc : c = 'Z' ∨ c = 'z') : OffsetText [c] 0
  | ahead {hs ms : List Char} {h m : Nat} (hh : TwoDigits hs h) (hm : TwoDigits ms m)
      (hlt : m < 60) :
      OffsetText ('+' :: (hs ++ ':' :: ms)) (h * 60 + m : Nat)
  | behind {c : Char} {hs ms : List Char} {h m : Nat} (hc : c = '-' ∨ c = '\u2212')
      (hh : TwoDigits hs h) (hm : TwoDigits ms m) (hlt : m < 60) :
      OffsetText (c :: (hs ++ ':' :: ms)) (-(h * 60 + m : Nat))

/-- A date: four digits of the year, two of the month and two of the day. -/
inductive DateText : List Char → Date → Prop
  | mk {cs ys ms ds : List Char} {century year month day : Nat} (hc : TwoDigits cs century)
      (hy : TwoDigits ys year) (hm : TwoDigits ms month) (hd : TwoDigits ds day) :
      DateText (cs ++ (ys ++ '-' :: (ms ++ '-' :: ds))) ⟨century * 100 + year, month, day⟩

/-- A timestamp: a date, a mark, a time of day with a fraction, and an offset. -/
inductive Spells : List Char → Reading → Prop
  | mk {ds hs ms ss fs os : List Char} {mark : Char} {date : Date} {hour minute second nanos : Nat}
      {offset : Int} (hdate : DateText ds date) (hmark : mark = 'T' ∨ mark = 't' ∨ mark = ' ')
      (hhour : TwoDigits hs hour) (hminute : TwoDigits ms minute) (hsecond : TwoDigits ss second)
      (hnanos : FractionText fs nanos) (hoffset : OffsetText os offset) :
      Spells (ds ++ mark :: (hs ++ ':' :: (ms ++ ':' :: (ss ++ (fs ++ os)))))
        ⟨date, hour, minute, second, nanos, offset⟩

/-! ## Readers of the parts -/

theorem digit_eq_ok_iff {s rest : List Char} {n : Nat} :
    digit s = .ok (n, rest) ↔ ∃ c, c.isDigit = true ∧ s = c :: rest ∧ n = Text.digitValue c := by
  cases s with
  | nil => simp [digit]
  | cons c s =>
    by_cases hc : c.isDigit = true
    · simp only [digit, hc, if_true, Except.ok.injEq, Prod.mk.injEq, List.cons.injEq]
      constructor
      · rintro ⟨rfl, rfl⟩
        exact ⟨c, hc, ⟨rfl, rfl⟩, rfl⟩
      · rintro ⟨c', -, ⟨rfl, rfl⟩, rfl⟩
        exact ⟨rfl, rfl⟩
    · simp only [digit, hc, List.cons.injEq]
      constructor
      · intro h
        cases h
      · rintro ⟨c', hc', ⟨rfl, -⟩, -⟩
        exact absurd hc' hc

theorem digitValue_lt {c : Char} (h : c.isDigit = true) : Text.digitValue c < 10 := by
  simp only [Char.isDigit, Bool.and_eq_true, decide_eq_true_eq, UInt32.le_iff_toNat_le] at h
  simp only [Text.digitValue, Char.toNat]
  have h9 : '9'.val.toNat = 57 := rfl
  have h0 : '0'.val.toNat = 48 := rfl
  omega

/-- A number of two digits is read as the grammar says. -/
theorem twoDigits_eq_ok_iff {s rest : List Char} {n : Nat} :
    twoDigits s = .ok (n, rest) ↔ ∃ w, TwoDigits w n ∧ s = w ++ rest := by
  unfold twoDigits
  constructor
  · intro h
    obtain ⟨⟨a, s₁⟩, ha, hrest⟩ := bind_eq_ok_iff.1 h
    obtain ⟨⟨b, s₂⟩, hb, hn⟩ := bind_eq_ok_iff.1 hrest
    obtain ⟨c, hc, rfl, rfl⟩ := digit_eq_ok_iff.1 ha
    obtain ⟨d, hd, rfl, rfl⟩ := digit_eq_ok_iff.1 hb
    cases hn
    exact ⟨[c, d], ⟨c, d, hc, hd, rfl, rfl⟩, rfl⟩
  · rintro ⟨w, ⟨a, b, ha, hb, rfl, rfl⟩, rfl⟩
    refine bind_eq_ok_iff.2 ⟨_, digit_eq_ok_iff.2 ⟨a, ha, rfl, rfl⟩, ?_⟩
    exact bind_eq_ok_iff.2 ⟨_, digit_eq_ok_iff.2 ⟨b, hb, rfl, rfl⟩, rfl⟩

theorem twoDigits_bind_eq_ok_iff {β : Type} {s : List Char}
    {f : Nat × List Char → Except ParseError β} {r : β} :
    (twoDigits s >>= f) = .ok r ↔
      ∃ w n rest, TwoDigits w n ∧ s = w ++ rest ∧ f (n, rest) = .ok r := by
  rw [bind_eq_ok_iff]
  constructor
  · rintro ⟨⟨n, rest⟩, hn, hf⟩
    obtain ⟨w, hw, hs⟩ := twoDigits_eq_ok_iff.1 hn
    exact ⟨w, n, rest, hw, hs, hf⟩
  · rintro ⟨w, n, rest, hw, hs, hf⟩
    exact ⟨(n, rest), twoDigits_eq_ok_iff.2 ⟨w, hw, hs⟩, hf⟩

theorem mark_bind_eq_ok_iff {β : Type} {p : Char → Bool} {s : List Char}
    {f : Unit × List Char → Except ParseError β} {r : β} :
    (mark p s >>= f) = .ok r ↔ ∃ c rest, p c = true ∧ s = c :: rest ∧ f ((), rest) = .ok r := by
  rw [bind_eq_ok_iff]
  constructor
  · rintro ⟨⟨_, rest⟩, hs, hf⟩
    cases s with
    | nil => cases hs
    | cons c s =>
      by_cases hc : p c = true
      · rw [mark, if_pos hc] at hs
        cases hs
        exact ⟨c, rest, hc, rfl, hf⟩
      · rw [mark, if_neg hc] at hs
        cases hs
  · rintro ⟨c, rest, hc, rfl, hf⟩
    exact ⟨((), rest), if_pos hc, hf⟩

/-- A date is read as the grammar says, and only if it exists. -/
theorem parseDate_eq_ok_iff {s rest : List Char} {d : Date} :
    parseDate s = .ok (d, rest) ↔
      ∃ w, DateText w d ∧ s = w ++ rest ∧ d.isValid = true := by
  unfold parseDate
  simp only [twoDigits_bind_eq_ok_iff, mark_bind_eq_ok_iff, beq_iff_eq]
  constructor
  · rintro ⟨cs, century, _, hc, rfl, ys, year, _, hy, rfl, _, _, rfl, rfl, ms, month, _, hm, rfl,
      _, _, rfl, rfl, ds, day, _, hd, rfl, h⟩
    split at h
    · rename_i hvalid
      cases h
      exact ⟨_, .mk hc hy hm hd, by simp, hvalid⟩
    · cases h
  · rintro ⟨_, ⟨hc, hy, hm, hd⟩, rfl, hvalid⟩
    simp only [List.append_assoc, List.cons_append]
    refine ⟨_, _, _, hc, rfl, _, _, _, hy, rfl, '-', _, rfl, rfl, _, _, _, hm, rfl,
      '-', _, rfl, rfl, _, _, _, hd, rfl, ?_⟩
    rw [if_pos hvalid]
    rfl

/-- The fraction that a text starts with. -/
theorem exists_of_parseFraction {s rest : List Char} {n : Nat}
    (h : parseFraction s = .ok (n, rest)) : ∃ w, FractionText w n ∧ s = w ++ rest := by
  unfold parseFraction at h
  split at h
  · rename_i s
    cases s with
    | nil => cases h
    | cons c s =>
      simp only at h
      split at h
      · rename_i hc
        cases h
        refine ⟨'.' :: (c :: s).takeWhile Char.isDigit, .digits ?_ ?_, ?_⟩
        · simp [hc]
        · exact fun d hd => List.mem_takeWhile_imp hd
        · simp
      · cases h
  · cases h
    exact ⟨[], .none, rfl⟩

/-- A fraction ends in front of what is neither a digit nor a point. -/
theorem parseFraction_append {w s : List Char} {n : Nat} {c : Char} (h : FractionText w n)
    (hdigit : c.isDigit = false) (hpoint : c ≠ '.') :
    parseFraction (w ++ c :: s) = .ok (n, c :: s) := by
  cases h with
  | none =>
    unfold parseFraction
    split
    · rename_i s' hs
      exact absurd (List.cons.inj hs).1 hpoint
    · rfl
  | @digits ds hne hds =>
    obtain ⟨d, ds, rfl⟩ := List.exists_cons_of_ne_nil hne
    have htake : ((d :: ds) ++ c :: s).takeWhile Char.isDigit = d :: ds := by
      rw [List.takeWhile_append_of_pos hds, List.takeWhile_cons_of_neg (by simp [hdigit]),
        List.append_nil]
    have hdrop : ((d :: ds) ++ c :: s).dropWhile Char.isDigit = c :: s := by
      rw [List.dropWhile_append_of_pos hds, List.dropWhile_cons_of_neg (by simp [hdigit])]
    have hd : d.isDigit = true := hds d List.mem_cons_self
    simp only [List.cons_append] at htake hdrop
    simp only [parseFraction, List.cons_append, hd, if_true, htake, hdrop]

theorem offsetDigits_cons_cons (c d : Char) (s : List Char) :
    offsetDigits (c :: d :: s) =
      if c.isDigit ∧ d.isDigit then .ok ((Text.digitValue c, Text.digitValue d), s)
      else .error .invalid := rfl

theorem offsetDigits_eq_ok_iff {s rest : List Char} {a b : Nat} :
    offsetDigits s = .ok ((a, b), rest) ↔ ∃ c d, c.isDigit = true ∧ d.isDigit = true ∧
      s = c :: d :: rest ∧ a = Text.digitValue c ∧ b = Text.digitValue d := by
  constructor
  · intro h
    rcases s with _ | ⟨c, _ | ⟨d, s⟩⟩
    · cases h
    · unfold offsetDigits at h
      split at h <;> cases h
    · rw [offsetDigits_cons_cons] at h
      by_cases hdigits : c.isDigit = true ∧ d.isDigit = true
      · rw [if_pos hdigits] at h
        cases h
        exact ⟨c, d, hdigits.1, hdigits.2, rfl, rfl, rfl⟩
      · rw [if_neg hdigits] at h
        cases h
  · rintro ⟨c, d, hc, hd, rfl, rfl, rfl⟩
    rw [offsetDigits_cons_cons, if_pos ⟨hc, hd⟩]

/-- Hours and minutes of an offset. -/
theorem parseOffsetBody_eq_ok_iff {s rest : List Char} {o : Int} :
    parseOffsetBody s = .ok (o, rest) ↔ ∃ hs ms h m, TwoDigits hs h ∧ TwoDigits ms m ∧ m < 60 ∧
      s = hs ++ ':' :: (ms ++ rest) ∧ o = (h * 60 + m : Nat) := by
  constructor
  · intro h
    obtain ⟨⟨⟨a, b⟩, s₁⟩, hhour, hbody⟩ := bind_eq_ok_iff.1 h
    obtain ⟨c, d, hc, hd, rfl, rfl, rfl⟩ := offsetDigits_eq_ok_iff.1 hhour
    simp only at hbody
    split at hbody
    · cases hbody
    · obtain ⟨⟨⟨a', b'⟩, s₂⟩, hminute, hend⟩ := bind_eq_ok_iff.1 hbody
      obtain ⟨c', d', hc', hd', rfl, rfl, rfl⟩ := offsetDigits_eq_ok_iff.1 hminute
      simp only at hend
      split at hend
      · cases hend
      · rename_i hlt
        cases hend
        refine ⟨[c, d], [c', d'], _, _, ⟨c, d, hc, hd, rfl, rfl⟩, ⟨c', d', hc', hd', rfl, rfl⟩,
          ?_, rfl, rfl⟩
        have := digitValue_lt hd'
        omega
    · cases hbody
  · rintro ⟨_, _, _, _, ⟨c, d, hc, hd, rfl, rfl⟩, ⟨c', d', hc', hd', rfl, rfl⟩, hlt, rfl, rfl⟩
    refine bind_eq_ok_iff.2 ⟨_, offsetDigits_eq_ok_iff.2 ⟨c, d, hc, hd, rfl, rfl, rfl⟩, ?_⟩
    refine bind_eq_ok_iff.2 ⟨_, offsetDigits_eq_ok_iff.2 ⟨c', d', hc', hd', rfl, rfl, rfl⟩, ?_⟩
    exact if_neg (by omega)

theorem parseOffsetBody_map_neg_eq_ok_iff {s rest : List Char} {o : Int} :
    (parseOffsetBody s).map (fun r => (-r.1, r.2)) = .ok (o, rest) ↔
      ∃ hs ms h m, TwoDigits hs h ∧ TwoDigits ms m ∧ m < 60 ∧
        s = hs ++ ':' :: (ms ++ rest) ∧ o = -(h * 60 + m : Nat) := by
  rw [map_eq_ok_iff]
  constructor
  · rintro ⟨⟨o', s'⟩, hbody, heq⟩
    cases heq
    obtain ⟨hs, ms, h, m, hh, hm, hlt, rfl, rfl⟩ := parseOffsetBody_eq_ok_iff.1 hbody
    exact ⟨hs, ms, h, m, hh, hm, hlt, rfl, rfl⟩
  · rintro ⟨hs, ms, h, m, hh, hm, hlt, rfl, rfl⟩
    exact ⟨_, parseOffsetBody_eq_ok_iff.2 ⟨hs, ms, h, m, hh, hm, hlt, rfl, rfl⟩, rfl⟩

/-- An offset is read as the grammar says. -/
theorem parseOffset_eq_ok_iff {s rest : List Char} {o : Int} :
    parseOffset s = .ok (o, rest) ↔ ∃ w, OffsetText w o ∧ s = w ++ rest := by
  constructor
  · intro h
    unfold parseOffset at h
    split at h
    · cases h
    · cases h
      exact ⟨['Z'], .utc (.inl rfl), rfl⟩
    · cases h
      exact ⟨['z'], .utc (.inr rfl), rfl⟩
    · obtain ⟨hs, ms, h, m, hh, hm, hlt, rfl, rfl⟩ := parseOffsetBody_eq_ok_iff.1 h
      exact ⟨_, .ahead hh hm hlt, by simp⟩
    · obtain ⟨hs, ms, h, m, hh, hm, hlt, rfl, rfl⟩ := parseOffsetBody_map_neg_eq_ok_iff.1 h
      exact ⟨_, .behind (.inl rfl) hh hm hlt, by simp⟩
    · obtain ⟨hs, ms, h, m, hh, hm, hlt, rfl, rfl⟩ := parseOffsetBody_map_neg_eq_ok_iff.1 h
      exact ⟨_, .behind (.inr rfl) hh hm hlt, by simp⟩
    · cases h
  · rintro ⟨w, hw, rfl⟩
    cases hw with
    | utc hc => rcases hc with rfl | rfl <;> rfl
    | ahead hh hm hlt =>
      rw [List.cons_append, List.append_assoc]
      exact parseOffsetBody_eq_ok_iff.2 ⟨_, _, _, _, hh, hm, hlt, rfl, rfl⟩
    | behind hc hh hm hlt =>
      rw [List.cons_append, List.append_assoc]
      rcases hc with rfl | rfl <;>
        exact parseOffsetBody_map_neg_eq_ok_iff.2 ⟨_, _, _, _, hh, hm, hlt, rfl, rfl⟩

/-! ## Timestamps -/

theorem TwoDigits.lt {w : List Char} {n : Nat} (h : TwoDigits w n) : n < 100 := by
  obtain ⟨a, b, ha, hb, -, rfl⟩ := h
  have := digitValue_lt ha
  have := digitValue_lt hb
  omega

theorem TwoDigits.length_eq {w : List Char} {n : Nat} (h : TwoDigits w n) : w.length = 2 := by
  obtain ⟨a, b, -, -, rfl, -⟩ := h
  rfl

theorem decimal_lt {s : List Char} (h : ∀ c ∈ s, c.isDigit = true) :
    Text.decimal s < 10 ^ s.length := by
  induction s using List.reverseRecOn with
  | nil => decide
  | append_singleton s c ih =>
    have hs := ih fun d hd => h d (List.mem_append_left _ hd)
    have hc := digitValue_lt (h c (by simp))
    simp only [Text.decimal, List.foldl_append, List.foldl_cons, List.foldl_nil, List.length_append,
      List.length_singleton, Nat.pow_succ] at hs ⊢
    omega

/-- A fraction is less than a second, however many digits it has. -/
theorem FractionText.lt {w : List Char} {n : Nat} (h : FractionText w n) : n < 1000000000 := by
  cases h with
  | none => decide
  | @digits ds hne hds =>
    have hlt : Text.decimal (ds.take 9) < 10 ^ (ds.take 9).length :=
      decimal_lt fun c hc => hds c (List.mem_of_mem_take hc)
    have hlen : (ds.take 9).length ≤ 9 := List.length_take_le 9 ds
    calc Text.decimal (ds.take 9) * 10 ^ (9 - (ds.take 9).length)
      _ < 10 ^ (ds.take 9).length * 10 ^ (9 - (ds.take 9).length) :=
        Nat.mul_lt_mul_of_pos_right hlt (Nat.pow_pos (by decide))
      _ = 10 ^ 9 := by rw [← Nat.pow_add, Nat.add_sub_cancel' hlen]

/-- The character behind a fraction. -/
theorem OffsetText.exists_cons {w : List Char} {o : Int} (h : OffsetText w o) :
    ∃ c s, w = c :: s ∧ c.isDigit = false ∧ c ≠ '.' := by
  cases h with
  | utc hc => rcases hc with rfl | rfl <;> exact ⟨_, _, rfl, by decide, by decide⟩
  | ahead => exact ⟨_, _, rfl, by decide, by decide⟩
  | behind hc => rcases hc with rfl | rfl <;> exact ⟨_, _, rfl, by decide, by decide⟩

theorem length_le_byteCount (s : List Char) : s.length ≤ Text.Utf8.byteCount s := by
  induction s with
  | nil => simp [Text.Utf8.byteCount]
  | cons c s ih =>
    have := c.utf8Size_pos
    simp only [List.length_cons, Text.Utf8.byteCount]
    omega

theorem ofParts?_eq_some_iff {seconds : Int} {nanos : Nat} {i : Instant} :
    ofParts? seconds nanos = some i ↔ seconds = i.seconds ∧ nanos = i.nanos := by
  unfold ofParts?
  constructor
  · intro h
    split at h
    · cases h
      exact ⟨rfl, rfl⟩
    · cases h
  · rintro ⟨rfl, rfl⟩
    rw [dif_pos ⟨i.nanos_lt, i.leap⟩]

/-- What a valid reading says is an instant. -/
theorem ofParts?_reading {r : Reading} (h : r.Valid) :
    ofParts? r.seconds r.fraction = some (r.instant h) :=
  ofParts?_eq_some_iff.2 ⟨rfl, rfl⟩

/-- No timestamp is shorter than 19 characters. -/
theorem Spells.length_le {s : List Char} {r : Reading} (h : Spells s r) : 19 ≤ s.length := by
  obtain ⟨⟨hc, hy, hm, hd⟩, -, hhour, hminute, hsecond, -, -⟩ := h
  simp only [List.length_append, List.length_cons, hc.length_eq, hy.length_eq, hm.length_eq,
    hd.length_eq, hhour.length_eq, hminute.length_eq, hsecond.length_eq]
  omega

theorem DateText.year_mem {w : List Char} {d : Date} (h : DateText w d) :
    0 ≤ d.year ∧ d.year ≤ 9999 := by
  obtain ⟨hc, hy, -, -⟩ := h
  have := hc.lt
  have := hy.lt
  simp only
  omega

/-- A leap second is counted as the second before it. -/
theorem clamped_second {n : Nat} (h : n ≤ 60) : (if n == 60 then 59 else n) = min n 59 := by
  by_cases hn : n = 60
  · simp [hn]
  · simp only [beq_iff_eq, hn, if_false]
    omega

/-- A text that `parse` accepts is a timestamp whose parts lie in their ranges. -/
theorem exists_spells_of_parse {s : String} {i : Instant} (h : parse s = .ok i) :
    ∃ r, ∃ hr : r.Valid, Spells s.toList r ∧ r.instant hr = i := by
  unfold parse parseChars at h
  split at h
  · cases h
  simp only [twoDigits_bind_eq_ok_iff, mark_bind_eq_ok_iff, bind_eq_ok_iff (x := parseDate _),
    bind_eq_ok_iff (x := parseFraction _), Prod.exists] at h
  obtain ⟨date, _, hdate, mark, _, hmark, rfl, hs, hour, _, hhour, rfl, _, _, hcolon, rfl, ms,
    minute, _, hminute, rfl, _, _, hcolon', rfl, ss, second, _, hsecond, rfl, nanos, _, hnanos,
    h⟩ := h
  obtain ⟨ds, hds, htext, hvalid⟩ := parseDate_eq_ok_iff.1 hdate
  obtain ⟨fs, hfs, rfl⟩ := exists_of_parseFraction hnanos
  obtain rfl := eq_of_beq hcolon
  obtain rfl := eq_of_beq hcolon'
  by_cases hclock : 24 ≤ hour ∨ 60 ≤ minute ∨ 60 ≤ if (second == 60) = true then 59 else second
  · rw [if_pos hclock] at h
    cases h
  rw [if_neg hclock] at h
  have hsecond60 : second ≤ 60 := by
    by_contra hgt
    have hne : second ≠ 60 := by omega
    simp only [beq_iff_eq, hne, if_false] at hclock
    omega
  rw [clamped_second hsecond60] at h
  obtain ⟨⟨offset, rest⟩, hoffset, hfinish⟩ := bind_eq_ok_iff.1 h
  obtain ⟨os, hos, rfl⟩ := parseOffset_eq_ok_iff.1 hoffset
  by_cases hdistance : 1440 ≤ offset.natAbs
  · rw [if_pos hdistance] at hfinish
    cases hfinish
  rw [if_neg hdistance] at hfinish
  cases rest with
  | cons c rest => cases hfinish
  | nil =>
    have hr : Reading.Valid ⟨date, hour, minute, second, nanos, offset⟩ :=
      ⟨hvalid, hds.year_mem, Nat.not_le.1 fun hle => hclock (.inl hle),
        Nat.not_le.1 fun hle => hclock (.inr (.inl hle)), hsecond60, hfs.lt,
        Nat.not_le.1 hdistance⟩
    refine ⟨_, hr, ?_, ?_⟩
    · rw [htext, List.append_nil]
      exact .mk hds (by simpa [or_assoc] using hmark) hhour hminute hsecond hfs hos
    · have hparts := ofParts?_reading hr
      simp only [Reading.seconds, Reading.fraction] at hparts
      simp only [beq_iff_eq, List.isEmpty_nil, Bool.not_true, Bool.false_eq_true, if_false,
        hparts] at hfinish
      exact Except.ok.inj hfinish

/-- The text of a timestamp whose parts lie in their ranges is accepted. -/
theorem parse_of_spells {s : String} {r : Reading} (hr : r.Valid) (h : Spells s.toList r) :
    parse s = .ok (r.instant hr) := by
  unfold parse parseChars
  have hsize : ¬ Text.Utf8.byteCount s.toList < 19 := by
    have := h.length_le
    have := length_le_byteCount s.toList
    omega
  rw [if_neg hsize]
  generalize s.toList = text at h
  have hparts := ofParts?_reading hr
  obtain ⟨hds, hmark, hhour, hminute, hsecond, hfs, hos⟩ := h
  obtain ⟨c, os, rfl, hdigit, hpoint⟩ := hos.exists_cons
  simp only [twoDigits_bind_eq_ok_iff, mark_bind_eq_ok_iff, bind_eq_ok_iff (x := parseDate _),
    bind_eq_ok_iff (x := parseFraction _), Prod.exists]
  refine ⟨_, _, parseDate_eq_ok_iff.2 ⟨_, hds, rfl, hr.date⟩, _, _,
    by simpa [or_assoc] using hmark, rfl, _, _, _, hhour, rfl, ':', _, rfl, rfl,
    _, _, _, hminute, rfl, ':', _, rfl, rfl, _, _, _, hsecond, rfl,
    _, _, parseFraction_append hfs hdigit hpoint, ?_⟩
  have hclock := hr.hour
  have hclock' := hr.minute
  have hdistance := hr.offset
  rw [clamped_second hr.second, if_neg (by simp only at hclock hclock' ⊢; omega)]
  refine bind_eq_ok_iff.2 ⟨_, parseOffset_eq_ok_iff.2 ⟨_, hos, (List.append_nil _).symm⟩, ?_⟩
  rw [if_neg (by simp only at hdistance ⊢; omega)]
  simp only [Reading.seconds, Reading.fraction] at hparts
  simp only [beq_iff_eq, List.isEmpty_nil, Bool.not_true, Bool.false_eq_true, if_false, hparts]

/-- The text `s` is a timestamp of the instant `i`. -/
def IsTimestamp (s : String) (i : Instant) : Prop :=
  ∃ r, ∃ hr : r.Valid, Spells s.toList r ∧ r.instant hr = i

/-- `parse` accepts the timestamps, with the instants that they are of, and nothing else. -/
theorem parse_eq_ok_iff {s : String} {i : Instant} : parse s = .ok i ↔ IsTimestamp s i := by
  constructor
  · exact exists_spells_of_parse
  · rintro ⟨r, hr, h, rfl⟩
    exact parse_of_spells hr h

end Instant

end Credentials
