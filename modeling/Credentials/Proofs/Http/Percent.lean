import Credentials.Http.Percent
import Credentials.Proofs.Text.Utf8

/-!
# Percent encoding is undone

What `percentEncode` writes for a text decodes to the text's bytes, provided that every `%` of the
text is itself encoded (`percentDecode_percentEncode`), and so to the text
(`strict?_percentDecode_percentEncode`). Encoding brings in no characters but `%` and digits
(`mem_percentEncode`).
-/

namespace Credentials.Http

theorem hexValue?_upperHex {n : Nat} (h : n < 16) : Text.hexValue? (Text.upperHex n) = some n :=
  (by decide : ∀ m ∈ List.range 16, Text.hexValue? (Text.upperHex m) = some m) n
    (List.mem_range.2 h)

/-- A triple is decoded to its byte. -/
theorem percentDecode_triple (b : UInt8) (rest : List Char) :
    percentDecode (triple b ++ rest) = b :: percentDecode rest := by
  have hb := b.toNat_lt
  have hbyte : UInt8.ofNat (b.toNat / 16 * 16 + b.toNat % 16) = b := by
    rw [show b.toNat / 16 * 16 + b.toNat % 16 = b.toNat by omega]
    exact UInt8.ofNat_toNat
  rw [triple, List.cons_append, List.cons_append, List.cons_append, List.nil_append, percentDecode]
  simp only [hexValue?_upperHex (show b.toNat / 16 < 16 by omega),
    hexValue?_upperHex (show b.toNat % 16 < 16 by omega), hbyte]

theorem percentDecode_triples (c : Char) (rest : List Char) :
    percentDecode (triples c ++ rest) = String.utf8EncodeChar c ++ percentDecode rest := by
  have hbytes (bytes : List UInt8) :
      percentDecode (bytes.flatMap triple ++ rest) = bytes ++ percentDecode rest := by
    induction bytes with
    | nil => rfl
    | cons b bs ih =>
      rw [List.flatMap_cons, List.append_assoc, percentDecode_triple, ih, List.cons_append]
  exact hbytes _

theorem percentDecode_cons {c : Char} (h : c ≠ '%') (rest : List Char) :
    percentDecode (c :: rest) = String.utf8EncodeChar c ++ percentDecode rest := by
  rw [percentDecode]
  intro a b s hc
  exact absurd hc h

variable {p : Char → Bool} {s : List Char}

/-- Decoding undoes encoding if every percent sign is encoded. -/
theorem percentDecode_percentEncode (h : ∀ c ∈ s, c = '%' → p c = true) :
    percentDecode (percentEncode p s) = s.flatMap String.utf8EncodeChar := by
  unfold percentEncode
  induction s with
  | nil => rfl
  | cons c s ih =>
    rw [List.forall_mem_cons] at h
    rw [List.flatMap_cons, List.flatMap_cons]
    by_cases hc : p c = true
    · rw [if_pos hc, percentDecode_triples, ih h.2]
    · have hpercent : c ≠ '%' := fun heq => hc (h.1 heq)
      rw [if_neg hc, List.cons_append, List.nil_append, percentDecode_cons hpercent, ih h.2]

/-- An encoded text decodes to itself. -/
theorem strict?_percentDecode_percentEncode (h : ∀ c ∈ s, c = '%' → p c = true) :
    Text.Utf8.strict? (percentDecode (percentEncode p s)) = some (String.ofList s) := by
  rw [percentDecode_percentEncode h, Text.Utf8.strict?_flatMap_utf8EncodeChar]

theorem upperHex_eq_of_lt {n : Nat} (h : n < 16) :
    Text.upperHex n ∈ "0123456789ABCDEF".toList :=
  (by decide : ∀ m ∈ List.range 16, Text.upperHex m ∈ "0123456789ABCDEF".toList) n
    (List.mem_range.2 h)

/-- Encoding brings in `%` and digits only, and keeps just the characters that need no encoding. -/
theorem mem_percentEncode {d : Char} (h : d ∈ percentEncode p s) :
    d ∈ "%0123456789ABCDEF".toList ∨ d ∈ s ∧ p d = false := by
  obtain ⟨c, hc, hd⟩ := List.mem_flatMap.1 h
  by_cases hpc : p c = true
  · rw [if_pos hpc] at hd
    obtain ⟨b, -, hd⟩ := List.mem_flatMap.1 hd
    have hb := b.toNat_lt
    have hdigit {n : Nat} (hn : n < 16) : Text.upperHex n ∈ "%0123456789ABCDEF".toList :=
      List.mem_cons_of_mem _ (upperHex_eq_of_lt hn)
    simp only [triple, List.mem_cons, List.not_mem_nil, or_false] at hd
    rcases hd with rfl | rfl | rfl
    · exact .inl (by decide)
    · exact .inl (hdigit (by omega))
    · exact .inl (hdigit (by omega))
  · rw [if_neg hpc, List.mem_singleton] at hd
    subst hd
    exact .inr ⟨hc, by simpa using hpc⟩

theorem percentEncode_ne_nil (h : ∀ c ∈ s, c = '%' → p c = true) (hs : s ≠ []) :
    percentEncode p s ≠ [] := by
  intro hnil
  have hdecode := strict?_percentDecode_percentEncode h
  rw [hnil] at hdecode
  exact hs (String.ofList_injective (Option.some.inj hdecode).symm)

end Credentials.Http
