import Credentials.Http.Form
import Credentials.Proofs.Http.Percent

/-!
# Forms are read back

A form is split at `&` and each piece at its first `=`; in the parts `+` stands for a space before
triples are decoded. What was encoded is spelled of a few harmless characters (`Form.Spelled`), neither
`&` nor `=` among them, so it is read as the pairs that it was made of (`Form.decode?_encode`),
whatever their texts hold.
-/

namespace Credentials.Http.Form

/-! ## Reading -/

/-- What a character of a form stands for, apart from triples. -/
def plusToSpace (c : Char) : Char := if c = '+' then ' ' else c

/-- The text of a name or a value. -/
def decodeText? (s : List Char) : Option String :=
  Text.Utf8.strict? (percentDecode (s.map plusToSpace))

/-- The pair in a piece. -/
def decodePair? (s : List Char) : Option (String × String) := do
  let name ← decodeText? (s.takeWhile (· ≠ '='))
  let value ← decodeText? ((s.dropWhile (· ≠ '=')).drop 1)
  return (name, value)

/-- The pairs of a form. -/
def decode? (s : List Char) : Option (List (String × String)) :=
  ((s.splitOnP (· == '&')).filter fun piece => !piece.isEmpty).mapM decodePair?

/-! ## Spelling -/

def IsDigit (c : Char) : Prop := c ∈ "0123456789ABCDEF".toList

/-- Made of letters and digits in ASCII, the characters `*-._+` and triples. -/
inductive Spelled : List Char → Prop
  | nil : Spelled []
  | plain {c : Char} {s : List Char} (hc : c.isAlphanum = true ∨ c ∈ "*-._+".toList)
      (h : Spelled s) : Spelled (c :: s)
  | triple {a b : Char} {s : List Char} (ha : IsDigit a) (hb : IsDigit b) (h : Spelled s) :
      Spelled ('%' :: a :: b :: s)

theorem isAlphanum_iff {c : Char} :
    c.isAlphanum = true ↔ ('A' ≤ c ∧ c ≤ 'Z' ∨ 'a' ≤ c ∧ c ≤ 'z') ∨ '0' ≤ c ∧ c ≤ '9' := by
  have hranges : c.isAlphanum = ((decide ('A' ≤ c ∧ c ≤ 'Z') ||
      decide ('a' ≤ c) && decide (c ≤ 'z')) || decide ('0' ≤ c) && decide (c ≤ '9')) := rfl
  simp only [hranges, Bool.or_eq_true, Bool.and_eq_true, decide_eq_true_eq]

theorem spelled_of_isPlain {c : Char} (h : isPlain c = true) :
    c.isAlphanum = true ∨ c ∈ "*-._+".toList := by
  simp only [isPlain, Bool.or_eq_true, Bool.and_eq_true, decide_eq_true_eq, beq_iff_eq] at h
  rcases h with ((((((h | h) | h) | rfl) | rfl) | rfl) | rfl)
  · exact .inl (isAlphanum_iff.2 (.inl (.inr h)))
  · exact .inl (isAlphanum_iff.2 (.inl (.inl h)))
  · exact .inl (isAlphanum_iff.2 (.inr h))
  all_goals exact .inr (by decide)

theorem Spelled.append {s t : List Char} (hs : Spelled s) (ht : Spelled t) : Spelled (s ++ t) := by
  induction hs with
  | nil => exact ht
  | plain hc _ ih => exact .plain hc ih
  | triple ha hb _ ih => exact .triple ha hb ih

theorem Spelled.flatMap {α : Type} {f : α → List Char} (hf : ∀ a, Spelled (f a)) (xs : List α) :
    Spelled (xs.flatMap f) := by
  induction xs with
  | nil => exact .nil
  | cons x xs ih => exact (hf x).append ih

theorem spelled_triple (b : UInt8) : Spelled (Http.triple b) := by
  have hb := b.toNat_lt
  exact .triple (upperHex_eq_of_lt (by omega)) (upperHex_eq_of_lt (by omega)) .nil

/-- An encoded text is spelled of harmless characters, whatever the text holds. -/
theorem spelled_encodeText (s : String) : Spelled (encodeText s) := by
  refine .flatMap (fun c => ?_) _
  unfold encodeChar
  split
  · exact .plain (.inr (by decide)) .nil
  · split
    · rename_i hplain
      exact .plain (spelled_of_isPlain hplain) .nil
    · exact .flatMap spelled_triple _

/-- What is spelled this way is in ASCII, and no character in it separates anything. -/
theorem Spelled.forall_mem {s : List Char} (h : Spelled s) :
    ∀ c ∈ s, c.isAlphanum = true ∨ c ∈ "*-._+%".toList := by
  have hdigits : "0123456789ABCDEF".toList.all Char.isAlphanum = true := rfl
  have hdigit {c : Char} (hc : IsDigit c) : c.isAlphanum = true := List.all_eq_true.1 hdigits c hc
  induction h with
  | nil => nofun
  | plain hc _ ih =>
    refine List.forall_mem_cons.2 ⟨hc.imp_right fun hmem => ?_, ih⟩
    exact List.mem_append_left ['%'] hmem
  | triple ha hb _ ih =>
    refine List.forall_mem_cons.2 ⟨.inr (by decide), List.forall_mem_cons.2 ⟨.inl (hdigit ha), ?_⟩⟩
    exact List.forall_mem_cons.2 ⟨.inl (hdigit hb), ih⟩

/-- What ends a pair or a query does not occur in what is spelled. -/
theorem Spelled.not_mem {s : List Char} (h : Spelled s) {c : Char} (hletter : c.isAlphanum = false)
    (hmark : c ∉ "*-._+%".toList) : c ∉ s := by
  intro hmem
  rcases h.forall_mem c hmem with hc | hc
  · rw [hletter] at hc
    cases hc
  · exact hmark hc

/-! ## Reading back -/

theorem map_plusToSpace_triples (c : Char) : (triples c).map plusToSpace = triples c := by
  have hplus : '+' ∉ triples c := by
    intro hmem
    have hencoded : '+' ∈ percentEncode (fun _ => true) [c] := by simpa [percentEncode] using hmem
    rcases mem_percentEncode hencoded with hdigit | ⟨-, hkept⟩
    · exact absurd hdigit (by decide)
    · cases hkept
  refine (List.map_congr_left fun d hd => if_neg ?_).trans (List.map_id _)
  rintro rfl
  exact hplus hd

/-- An encoded character is decoded to its bytes, with a plus sign for a space. -/
theorem percentDecode_encodeChar (c : Char) (rest : List Char) :
    percentDecode ((encodeChar c).map plusToSpace ++ rest) =
      String.utf8EncodeChar c ++ percentDecode rest := by
  unfold encodeChar
  split
  · rename_i hspace
    rw [hspace]
    exact percentDecode_cons (by decide) rest
  · split
    · rename_i hplain
      have hplus : c ≠ '+' := by
        rintro rfl
        exact absurd hplain (by decide)
      have hpercent : c ≠ '%' := by
        rintro rfl
        exact absurd hplain (by decide)
      rw [List.map_singleton, plusToSpace, if_neg hplus]
      exact percentDecode_cons hpercent rest
    -- A plus of the text is in here, so no plus is taken for a space.
    · rw [map_plusToSpace_triples]
      exact percentDecode_triples c rest

/-- Whatever a text holds, it is read back from its form. -/
theorem decodeText?_encodeText (s : String) : decodeText? (encodeText s) = some s := by
  have hbytes (cs : List Char) : percentDecode ((cs.flatMap encodeChar).map plusToSpace) =
      cs.flatMap String.utf8EncodeChar := by
    induction cs with
    | nil => rfl
    | cons c cs ih =>
      rw [List.flatMap_cons, List.map_append, percentDecode_encodeChar, ih, List.flatMap_cons]
  rw [decodeText?, encodeText, hbytes, Text.Utf8.strict?_flatMap_utf8EncodeChar,
    String.ofList_toList]

theorem encode_name (s : String) :
    encode [("name", s)] = "name=".toList ++ encodeText s := by
  have hname : encodeText "name" = "name".toList := by decide
  have hpair : encode [("name", s)] = encodeText "name" ++ '=' :: encodeText s := rfl
  rw [hpair, hname]
  rfl

theorem not_mem_encodeText (s : String) : '=' ∉ encodeText s ∧ '&' ∉ encodeText s :=
  ⟨(spelled_encodeText s).not_mem (by decide) (by decide),
    (spelled_encodeText s).not_mem (by decide) (by decide)⟩

/-- A pair is decoded as it was, because neither part of it holds what stands between them. -/
theorem decodePair?_encodePair (p : String × String) : decodePair? (encodePair p) = some p := by
  have hname : ∀ c ∈ encodeText p.1, decide (c ≠ '=') = true := by
    intro c hc
    exact decide_eq_true fun heq => (not_mem_encodeText p.1).1 (heq ▸ hc)
  rw [decodePair?, encodePair, List.takeWhile_append_of_pos hname,
    List.dropWhile_append_of_pos hname, List.takeWhile_cons_of_neg (by decide),
    List.dropWhile_cons_of_neg (by decide), List.append_nil, decodeText?_encodeText,
    List.drop_succ_cons, List.drop_zero, decodeText?_encodeText]
  rfl

theorem not_mem_encodePair (p : String × String) :
    ∀ c ∈ encodePair p, (c == '&') = false := by
  intro c hc
  rw [beq_eq_false_iff_ne]
  rintro rfl
  rcases List.mem_append.1 hc with hc | hc
  · exact (not_mem_encodeText p.1).2 hc
  · rcases List.mem_cons.1 hc with hc | hc
    · exact absurd hc (by decide)
    · exact (not_mem_encodeText p.2).2 hc

/-- A form falls into the pieces that it was put together from. -/
theorem splitOnP_encode (p : String × String) (ps : List (String × String)) :
    (encode (p :: ps)).splitOnP (· == '&') = (p :: ps).map encodePair := by
  induction ps generalizing p with
  | nil => exact List.splitOnP_eq_singleton (not_mem_encodePair p)
  | cons q ps ih =>
    have hencode : encode (p :: q :: ps) = encodePair p ++ '&' :: encode (q :: ps) := rfl
    rw [hencode, List.splitOnP_append_cons_of_forall_mem (not_mem_encodePair p) '&' rfl, ih]
    rfl

/-- A form is read as the pairs that were encoded. -/
theorem decode?_encode (ps : List (String × String)) : decode? (encode ps) = some ps := by
  cases ps with
  | nil => rfl
  | cons p ps =>
    -- Each piece holds an `=`, so none is left out.
    have hnonempty : ∀ piece ∈ (p :: ps).map encodePair, (!piece.isEmpty) = true := by
      intro piece hpiece
      obtain ⟨q, -, rfl⟩ := List.mem_map.1 hpiece
      simp [encodePair]
    rw [decode?, splitOnP_encode, List.filter_eq_self.2 hnonempty]
    generalize p :: ps = qs
    induction qs with
    | nil => rfl
    | cons q qs ih =>
      rw [List.map_cons, List.mapM_cons, decodePair?_encodePair, ih]
      rfl

/-! ## Lengths -/

/-- What is spelled takes one byte for each character. -/
theorem Spelled.utf8Size {s : List Char} (h : Spelled s) : ∀ c ∈ s, c.utf8Size = 1 := by
  intro c hc
  rcases h.forall_mem c hc with hletter | hmark
  · have hascii : c.val ≤ 127 := by
      rcases isAlphanum_iff.1 hletter with (⟨-, h⟩ | ⟨-, h⟩) | ⟨-, h⟩
      all_goals exact UInt32.le_trans (Char.le_def.1 h) (by decide)
    exact Char.utf8Size_eq_one_iff.2 hascii
  · have hmarks : "*-._+%".toList.all (fun c => c.utf8Size == 1) = true := rfl
    exact beq_iff_eq.1 (List.all_eq_true.1 hmarks c hmark)

theorem utf8ByteSize_ofList {s : List Char} (h : ∀ c ∈ s, c.utf8Size = 1) :
    (String.ofList s).utf8ByteSize = s.length := by
  induction s with
  | nil => rfl
  | cons c s ih =>
    rw [List.forall_mem_cons] at h
    have hsplit : String.ofList (c :: s) = String.singleton c ++ String.ofList s := by
      rw [String.singleton_eq_ofList, ← String.ofList_append]
      rfl
    rw [hsplit, String.utf8ByteSize_append, String.utf8ByteSize_singleton, ih h.2, h.1,
      List.length_cons, Nat.add_comm]

/-- Encoding makes no text shorter. -/
theorem length_le_length_encodeText (s : String) :
    s.toList.length ≤ (encodeText s).length := by
  have hchar (c : Char) : 1 ≤ (encodeChar c).length := by
    unfold encodeChar
    split
    · exact Nat.le_refl 1
    · split
      · exact Nat.le_refl 1
      · have hbytes : 0 < (String.utf8EncodeChar c).length := by
          rw [String.length_utf8EncodeChar]
          exact c.utf8Size_pos
        obtain ⟨b, bs, hb⟩ := List.exists_cons_of_length_pos hbytes
        simp [triples, Http.triple, hb]
  rw [encodeText]
  generalize s.toList = cs
  induction cs with
  | nil => exact Nat.le_refl 0
  | cons c cs ih =>
    have hc := hchar c
    rw [List.flatMap_cons, List.length_append, List.length_cons]
    omega

end Credentials.Http.Form
