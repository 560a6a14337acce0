import Credentials.Text.Utf8

/-!
# Characters are read back from their bytes

`decode` reads the UTF-8 of a character as the character, whatever follows it, so that a text is the
strict reading of its bytes (`strict?_flatMap_utf8EncodeChar`). There is one lemma for each number of
bytes; its bounds on the pieces are what keeps the bytes from being overlong, a surrogate or too
large.
-/

namespace Credentials.Text.Utf8

theorem toNat_ofNat_of_lt {n : Nat} (h : n < 256) : (UInt8.ofNat n).toNat = n := by
  rw [UInt8.toNat_ofNat']
  exact Nat.mod_eq_of_lt h

theorem inRange_ofNat {n : Nat} (h : n < 256) (first last : UInt8) :
    (first ≤ UInt8.ofNat n && UInt8.ofNat n ≤ last) = true ↔
      first.toNat ≤ n ∧ n ≤ last.toNat := by
  rw [Bool.and_eq_true, decide_eq_true_eq, decide_eq_true_eq, UInt8.le_iff_toNat_le,
    UInt8.le_iff_toNat_le, toNat_ofNat_of_lt h]

theorem isContinuation_ofNat {n : Nat} (h : n < 64) :
    isContinuation (UInt8.ofNat (n + 128)) = true := by
  rw [isContinuation, inRange_ofNat (by omega)]
  exact ⟨Nat.le_add_left _ _, by simp; omega⟩

theorem payload_ofNat {n : Nat} (h : n < 64) : payload (UInt8.ofNat (n + 128)) = n := by
  rw [payload, toNat_ofNat_of_lt (by omega)]
  omega

/-- What may follow a first byte, in numbers. -/
theorem isSecond_ofNat {a n : Nat} (ha : a < 256) (hn : n < 64) (hlong : a = 0xE0 → 32 ≤ n)
    (hsurrogate : a = 0xED → n < 32) (hlonger : a = 0xF0 → 16 ≤ n) (hlarge : a = 0xF4 → n < 16) :
    isSecond (UInt8.ofNat a) (UInt8.ofNat (n + 128)) = true := by
  have heq (k : UInt8) : (UInt8.ofNat a == k) = true ↔ a = k.toNat := by
    rw [beq_iff_eq, ← UInt8.toNat_inj, toNat_ofNat_of_lt ha]
  unfold isSecond
  simp only [heq]
  split
  · rename_i h
    exact (inRange_ofNat (by omega) _ _).2 ⟨by have := hlong h; simp; omega, by simp; omega⟩
  · split
    · rename_i h
      exact (inRange_ofNat (by omega) _ _).2 ⟨by simp, by have := hsurrogate h; simp; omega⟩
    · split
      · rename_i h
        exact (inRange_ofNat (by omega) _ _).2 ⟨by have := hlonger h; simp; omega, by simp; omega⟩
      · split
        · rename_i h
          exact (inRange_ofNat (by omega) _ _).2 ⟨by simp, by have := hlarge h; simp; omega⟩
        · exact isContinuation_ofNat hn

theorem decode_one {n : Nat} (h : n < 128) (rest : List UInt8) :
    decode (UInt8.ofNat n :: rest) = some (Char.ofNat n) :: decode rest := by
  have hn : (UInt8.ofNat n).toNat = n := toNat_ofNat_of_lt (by omega)
  have hascii : UInt8.ofNat n < 0x80 := by
    rw [UInt8.lt_iff_toNat_lt, hn]
    exact h
  rw [decode.eq_def]
  simp only [if_pos hascii, hn]

theorem not_ofNat_lt {n : Nat} (h : n < 256) (hn : 128 ≤ n) : ¬ UInt8.ofNat n < 0x80 := by
  rw [UInt8.lt_iff_toNat_lt, toNat_ofNat_of_lt h]
  exact Nat.not_lt.2 hn

theorem decode_two {m n : Nat} (hm : 2 ≤ m) (hm' : m < 32) (hn : n < 64) (rest : List UInt8) :
    decode (UInt8.ofNat (m + 192) :: UInt8.ofNat (n + 128) :: rest) =
      some (Char.ofNat (m * 64 + n)) :: decode rest := by
  have ha : (UInt8.ofNat (m + 192)).toNat % 32 = m := by
    rw [toNat_ofNat_of_lt (by omega)]
    omega
  have hfirst : (0xC2 ≤ UInt8.ofNat (m + 192) && UInt8.ofNat (m + 192) ≤ 0xDF) = true :=
    (inRange_ofNat (by omega) _ _).2 ⟨by simp; omega, by simp; omega⟩
  have hsecond := isSecond_ofNat (a := m + 192) (n := n) (by omega) hn (by omega) (by omega)
    (by omega) (by omega)
  rw [decode.eq_def]
  simp only [if_neg (not_ofNat_lt (n := m + 192) (by omega) (by omega)), if_pos hfirst,
    if_pos hsecond, ha, payload_ofNat hn]

theorem decode_three {l m n : Nat} (hl : l < 16) (hm : m < 64) (hn : n < 64)
    (hlong : l = 0 → 32 ≤ m) (hsurrogate : l = 13 → m < 32) (rest : List UInt8) :
    decode (UInt8.ofNat (l + 224) :: UInt8.ofNat (m + 128) :: UInt8.ofNat (n + 128) :: rest) =
      some (Char.ofNat ((l * 64 + m) * 64 + n)) :: decode rest := by
  have ha : (UInt8.ofNat (l + 224)).toNat % 16 = l := by
    rw [toNat_ofNat_of_lt (by omega)]
    omega
  have hnot : ¬ (0xC2 ≤ UInt8.ofNat (l + 224) && UInt8.ofNat (l + 224) ≤ 0xDF) = true := by
    rw [inRange_ofNat (by omega)]
    simp
  have hfirst : (0xE0 ≤ UInt8.ofNat (l + 224) && UInt8.ofNat (l + 224) ≤ 0xEF) = true :=
    (inRange_ofNat (by omega) _ _).2 ⟨by simp, by simp; omega⟩
  have hsecond := isSecond_ofNat (a := l + 224) (n := m) (by omega) hm (by omega) (by omega)
    (by omega) (by omega)
  rw [decode.eq_def]
  simp only [if_neg (not_ofNat_lt (n := l + 224) (by omega) (by omega)), if_neg hnot,
    if_pos hfirst, if_pos hsecond, if_pos (isContinuation_ofNat hn), ha, payload_ofNat hm,
    payload_ofNat hn]

theorem decode_four {k l m n : Nat} (hk : k ≤ 4) (hl : l < 64) (hm : m < 64) (hn : n < 64)
    (hlonger : k = 0 → 16 ≤ l) (hlarge : k = 4 → l < 16) (rest : List UInt8) :
    decode (UInt8.ofNat (k + 240) :: UInt8.ofNat (l + 128) :: UInt8.ofNat (m + 128) ::
        UInt8.ofNat (n + 128) :: rest) =
      some (Char.ofNat (((k * 64 + l) * 64 + m) * 64 + n)) :: decode rest := by
  have ha : (UInt8.ofNat (k + 240)).toNat % 8 = k := by
    rw [toNat_ofNat_of_lt (by omega)]
    omega
  have hnot : ¬ (0xC2 ≤ UInt8.ofNat (k + 240) && UInt8.ofNat (k + 240) ≤ 0xDF) = true := by
    rw [inRange_ofNat (by omega)]
    simp
  have hnot' : ¬ (0xE0 ≤ UInt8.ofNat (k + 240) && UInt8.ofNat (k + 240) ≤ 0xEF) = true := by
    rw [inRange_ofNat (by omega)]
    simp
  have hfirst : (0xF0 ≤ UInt8.ofNat (k + 240) && UInt8.ofNat (k + 240) ≤ 0xF4) = true :=
    (inRange_ofNat (by omega) _ _).2 ⟨by simp, by simp; omega⟩
  have hsecond := isSecond_ofNat (a := k + 240) (n := l) (by omega) hl (by omega) (by omega)
    (by omega) (by omega)
  rw [decode.eq_def]
  simp only [if_neg (not_ofNat_lt (n := k + 240) (by omega) (by omega)), if_neg hnot,
    if_neg hnot', if_pos hfirst, if_pos hsecond, if_pos (isContinuation_ofNat hm),
    if_pos (isContinuation_ofNat hn), ha, payload_ofNat hl, payload_ofNat hm, payload_ofNat hn]

/-- The bytes of a character are read as the character. -/
theorem decode_utf8EncodeChar (c : Char) (rest : List UInt8) :
    decode (String.utf8EncodeChar c ++ rest) = some c :: decode rest := by
  have hvalid : c.toNat < 55296 ∨ 57343 < c.toNat ∧ c.toNat < 1114112 := c.valid
  have hc (v : Nat) (hv : v = c.toNat) : some (Char.ofNat v) :: decode rest = some c :: decode rest := by
    rw [hv, Char.ofNat_toNat]
  have hval : c.val.toNat = c.toNat := rfl
  unfold String.utf8EncodeChar
  simp only [hval]
  split
  · rename_i h
    exact (decode_one (by omega) rest).trans (hc _ rfl)
  · split
    · rename_i h
      refine (decode_two (by omega) (by omega) (by omega) rest).trans (hc _ ?_)
      omega
    · split
      · refine (decode_three (by omega) (by omega) (by omega) (by omega) (by omega) rest).trans
          (hc _ ?_)
        omega
      · refine (decode_four (by omega) (by omega) (by omega) (by omega) (by omega) (by omega)
          rest).trans (hc _ ?_)
        omega

/-- Decoding undoes encoding, character by character. -/
theorem decode_flatMap_utf8EncodeChar (s : List Char) :
    decode (s.flatMap String.utf8EncodeChar) = s.map some := by
  induction s with
  | nil => rfl
  | cons c s ih => rw [List.flatMap_cons, decode_utf8EncodeChar, ih, List.map_cons]

/-- A text is what its bytes say. -/
theorem strict?_flatMap_utf8EncodeChar (s : List Char) :
    strict? (s.flatMap String.utf8EncodeChar) = some (String.ofList s) := by
  have hall : (s.map some).mapM id = some s := by
    induction s with
    | nil => rfl
    | cons c s ih =>
      rw [List.map_cons, List.mapM_cons, ih]
      rfl
  rw [strict?, decode_flatMap_utf8EncodeChar, hall]
  rfl

end Credentials.Text.Utf8
