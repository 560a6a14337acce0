import Credentials.Proofs.Name
import Credentials.Proofs.Text.Parts
import Mathlib.Logic.Relation

/-!
# Names made of segments

A segment adds its piece to a path: what is left of it when the separators at its ends are taken
away, if anything is. The text of a name that is made of segments is their pieces, each behind a
separator (`ofSegments?_eq_some_iff`), and a piece neither begins nor ends with a separator. Hence
segments that have the same pieces make the same name, and the text of such a name, taken for a
segment, adds itself to a path (`flatMap_pieces_text`). Main statement: `segments_flatten`.
-/

namespace Credentials.Name

open Text (Strips)

/-- The text has no character of its own. -/
def OnlySeparators (s : String) : Prop := ∀ c ∈ s.toList, c = separator

instance (s : String) : Decidable (OnlySeparators s) := List.decidableBAll _ _

/-! ## Pieces -/

theorem trimSegment_eq_iff {s : String} {t : List Char} :
    trimSegment s = t ↔ Strips isSeparator s.toList t := Text.rdropWhile_dropWhile_eq_iff

theorem onlySeparators_iff {s : String} :
    OnlySeparators s ↔ ∀ c ∈ s.toList, isSeparator c = true :=
  forall₂_congr fun _ _ => isSeparator_iff.symm

theorem trimSegment_eq_nil_iff {s : String} : trimSegment s = [] ↔ OnlySeparators s := by
  rw [trimSegment_eq_iff, Text.strips_nil_iff, onlySeparators_iff]

/-- Separators around a segment do not matter. -/
theorem trimSegment_around {front s back : String} (hfront : OnlySeparators front)
    (hback : OnlySeparators back) : trimSegment (front ++ s ++ back) = trimSegment s := by
  have hs : Strips isSeparator s.toList (trimSegment s) := trimSegment_eq_iff.1 rfl
  rw [trimSegment_eq_iff, String.toList_append, String.toList_append]
  exact hs.extend (onlySeparators_iff.1 hfront) (onlySeparators_iff.1 hback)

/-- What the segments add to a path. -/
def pieces (xs : List String) : List (List Char) :=
  (xs.map trimSegment).filter fun piece => !piece.isEmpty

/-- The pieces of lists behind each other are those of each of them. -/
theorem pieces_append (xs ys : List String) : pieces (xs ++ ys) = pieces xs ++ pieces ys := by
  rw [pieces, List.map_append, List.filter_append]
  rfl

theorem pieces_cons_of_onlySeparators {s : String} (h : OnlySeparators s) (xs : List String) :
    pieces (s :: xs) = pieces xs := by
  simp [pieces, trimSegment_eq_nil_iff.2 h]

theorem pieces_cons_of_not_onlySeparators {s : String} (h : ¬ OnlySeparators s)
    (xs : List String) : pieces (s :: xs) = trimSegment s :: pieces xs := by
  simp [pieces, mt trimSegment_eq_nil_iff.1 h]

theorem pieces_cons_congr {s t : String} (h : trimSegment s = trimSegment t) (xs : List String) :
    pieces (s :: xs) = pieces (t :: xs) := by
  rw [pieces, pieces, List.map_cons, List.map_cons, h]

/-- There is no piece if there is nothing but separators. -/
theorem pieces_eq_nil_iff {xs : List String} : pieces xs = [] ↔ ∀ s ∈ xs, OnlySeparators s := by
  simp [pieces, List.filter_eq_nil_iff, trimSegment_eq_nil_iff]

/-- A part of a path: it is not empty and has no separator at either end. -/
structure IsPiece (piece : List Char) : Prop where
  ne_nil : piece ≠ []
  first : ∀ c ∈ piece.head?, c ≠ separator
  last : ∀ c ∈ piece.getLast?, c ≠ separator

/-- A piece neither begins nor ends with a separator. -/
theorem isPiece_of_mem {xs : List String} {piece : List Char} (h : piece ∈ pieces xs) :
    IsPiece piece := by
  obtain ⟨hmem, hne⟩ := List.mem_filter.1 h
  obtain ⟨s, -, hs⟩ := List.mem_map.1 hmem
  have hstrips := trimSegment_eq_iff.1 hs
  refine ⟨by simpa using hne, fun c hc => ?_, fun c hc => ?_⟩
  · simpa [isSeparator] using hstrips.first c hc
  · simpa [isSeparator] using hstrips.last c hc

/-! ## Joined pieces -/

theorem cons_joinSegments (piece : List Char) (ps : List (List Char)) :
    separator :: joinSegments (piece :: ps) = (piece :: ps).flatMap (separator :: ·) := by
  induction ps generalizing piece with
  | nil => simp [joinSegments]
  | cons next ps ih =>
    rw [List.flatMap_cons, ← ih]
    rfl

theorem exists_joinSegments_eq (c : Char) (r : List Char) (ps : List (List Char)) :
    ∃ rest, joinSegments ((c :: r) :: ps) = c :: rest := by
  cases ps with
  | nil => exact ⟨r, rfl⟩
  | cons next ps => exact ⟨r ++ separator :: joinSegments (next :: ps), rfl⟩

theorem getLast?_flatMap_ne {ps : List (List Char)} (h : ∀ piece ∈ ps, IsPiece piece) :
    ∀ c ∈ (ps.flatMap (separator :: ·)).getLast?, c ≠ separator := by
  induction ps with
  | nil => simp
  | cons piece ps ih =>
    obtain ⟨hpiece, hps⟩ := List.forall_mem_cons.1 h
    intro c hc
    rw [List.flatMap_cons, List.getLast?_append, Option.mem_def, Option.or_eq_some_iff] at hc
    rcases hc with hc | ⟨-, hc⟩
    · exact ih hps c hc
    · -- This piece is the last one, and it is not empty, so the end is its own and no separator.
      rw [List.getLast?_cons_of_ne_nil hpiece.ne_nil] at hc
      exact hpiece.last c hc

/-! ## Names -/

theorem ofSegments?_of_pieces_eq_nil {xs : List String} (h : pieces xs = []) :
    ofSegments? xs = none := by
  have hjoined : ofSegments? xs = ofString? (String.ofList (joinSegments (pieces xs))) := rfl
  rw [hjoined, h, ofString?_eq_none_iff]
  simp [joinSegments]

/-- The joined pieces do not begin with a separator, so the one that a name has comes in front. -/
theorem exists_ofSegments? {xs : List String} (h : pieces xs ≠ []) :
    ∃ n, ofSegments? xs = some n ∧ n.text.toList = (pieces xs).flatMap (separator :: ·) := by
  obtain ⟨piece, ps, hpieces⟩ := List.exists_cons_of_ne_nil h
  have hmem : piece ∈ pieces xs := by
    rw [hpieces]
    exact List.mem_cons_self
  have hpiece : IsPiece piece := isPiece_of_mem hmem
  obtain ⟨c, r, rfl⟩ := List.exists_cons_of_ne_nil hpiece.ne_nil
  have hc : c ≠ separator := hpiece.first c rfl
  obtain ⟨rest, hrest⟩ := exists_joinSegments_eq c r ps
  have hdrop : (String.ofList (joinSegments (pieces xs))).toList.dropWhile isSeparator =
      c :: rest := by
    rw [String.toList_ofList, hpieces, hrest]
    exact dropWhile_replicate_append 0 rest hc
  obtain ⟨n, hn, htext⟩ := toList_of_dropWhile hdrop
  refine ⟨n, hn, ?_⟩
  rw [htext, ← hrest, cons_joinSegments, hpieces]

/-- The text of a name made of segments is their pieces, each behind a separator. -/
theorem ofSegments?_eq_some_iff {xs : List String} {n : Name} :
    ofSegments? xs = some n ↔ n.text.toList = (pieces xs).flatMap (separator :: ·) := by
  by_cases hpieces : pieces xs = []
  · rw [ofSegments?_of_pieces_eq_nil hpieces, hpieces]
    obtain ⟨c, r, htext, -⟩ := n.canonical
    simp [htext]
  · obtain ⟨m, hm, htext⟩ := exists_ofSegments? hpieces
    rw [hm, ← htext, Option.some.injEq, String.toList_inj]
    constructor
    · rintro rfl
      rfl
    · intro h
      exact (Name.ext h).symm

/-- Segments give no name if there is nothing in them but separators. -/
theorem ofSegments?_eq_none_iff {xs : List String} :
    ofSegments? xs = none ↔ ∀ s ∈ xs, OnlySeparators s := by
  rw [← pieces_eq_nil_iff]
  constructor
  · intro hnone
    by_contra hpieces
    obtain ⟨n, hn, -⟩ := exists_ofSegments? hpieces
    rw [hnone] at hn
    cases hn
  · exact ofSegments?_of_pieces_eq_nil

theorem ofSegments_eq_ok_iff {xs : List String} {n : Name} :
    ofSegments xs = .ok n ↔ ofSegments? xs = some n := by
  unfold ofSegments
  cases ofSegments? xs <;> simp

theorem ofSegments_eq_error_iff {xs : List String} {e : Error} :
    ofSegments xs = .error e ↔
      (∀ s ∈ xs, OnlySeparators s) ∧ e = .validation .emptyName := by
  rw [← ofSegments?_eq_none_iff]
  unfold ofSegments
  cases ofSegments? xs <;> simp [eq_comm]

/-- Segments with the same pieces give the same name. -/
theorem ofSegments_congr {xs ys : List String} (h : pieces xs = pieces ys) :
    ofSegments xs = ofSegments ys := by
  have hnames : ofSegments? xs = ofSegments? ys := by
    apply Option.ext
    intro n
    rw [ofSegments?_eq_some_iff, ofSegments?_eq_some_iff, h]
  rw [ofSegments, ofSegments, hnames]

/-! ## The path through segments -/

/-- The path that leads through segments. -/
inductive Leads : List String → List Char → Prop
  | nil : Leads [] []
  | skip {s : String} {xs : List String} {path : List Char} (hs : OnlySeparators s)
      (hxs : Leads xs path) : Leads (s :: xs) path
  | piece {s : String} {xs : List String} {piece path : List Char}
      (hs : Strips isSeparator s.toList piece) (hne : piece ≠ []) (hxs : Leads xs path) :
      Leads (s :: xs) (separator :: piece ++ path)

/-- Segments lead along the path of their pieces. -/
theorem leads_iff {xs : List String} {path : List Char} :
    Leads xs path ↔ path = (pieces xs).flatMap (separator :: ·) := by
  induction xs generalizing path with
  | nil =>
    constructor
    · intro h
      cases h
      rfl
    · rintro rfl
      exact .nil
  | cons s xs ih =>
    -- Whether the segment has a character of its own decides which rule applies to it.
    by_cases hs : OnlySeparators s
    · rw [pieces_cons_of_onlySeparators hs, ← ih]
      constructor
      · intro h
        cases h with
        | skip _ hxs => exact hxs
        | piece hstrips hne _ =>
          have htrim := trimSegment_eq_iff.2 hstrips
          exact absurd (htrim.symm.trans (trimSegment_eq_nil_iff.2 hs)) hne
      · exact .skip hs
    · rw [pieces_cons_of_not_onlySeparators hs, List.flatMap_cons]
      constructor
      · intro h
        cases h with
        | skip hblank _ => exact absurd hblank hs
        | piece hstrips _ hxs => rw [trimSegment_eq_iff.2 hstrips, ih.1 hxs]
      · rintro rfl
        exact .piece (trimSegment_eq_iff.1 rfl) (mt trimSegment_eq_nil_iff.1 hs) (ih.2 rfl)

/-! ## Changes that a path does not show -/

/-- A segment made of separators comes in, or separators are put around a segment. -/
inductive SegmentEdit : List String → List String → Prop
  | insert {before after : List String} {s : String} (hs : OnlySeparators s) :
      SegmentEdit (before ++ after) (before ++ s :: after)
  | around {before after : List String} {front s back : String} (hfront : OnlySeparators front)
      (hback : OnlySeparators back) :
      SegmentEdit (before ++ s :: after) (before ++ (front ++ s ++ back) :: after)

/-- A change that cannot matter leaves the pieces as they are. -/
theorem SegmentEdit.pieces_eq {xs ys : List String} (h : SegmentEdit xs ys) :
    pieces xs = pieces ys := by
  cases h with
  | insert hs => rw [pieces_append, pieces_append, pieces_cons_of_onlySeparators hs]
  | around hfront hback =>
    rw [pieces_append, pieces_append, pieces_cons_congr (trimSegment_around hfront hback)]

/-- Any number of such changes, made or undone. -/
theorem pieces_eq_of_eqvGen {xs ys : List String} (h : Relation.EqvGen SegmentEdit xs ys) :
    pieces xs = pieces ys := by
  induction h with
  | rel _ _ hedit => exact hedit.pieces_eq
  | refl _ => rfl
  | symm _ _ _ ih => exact ih.symm
  | trans _ _ _ _ _ ih ih' => exact ih.trans ih'

/-! ## Texts of names as segments -/

/-- No name that is made of segments ends with a separator. -/
theorem getLast?_text_ne {xs : List String} {n : Name} (h : ofSegments? xs = some n) :
    ∀ c ∈ n.text.toList.getLast?, c ≠ separator := by
  rw [ofSegments?_eq_some_iff.1 h]
  exact getLast?_flatMap_ne fun _ => isPiece_of_mem

/-- A text without a separator at its end is all there is to the path through it. -/
theorem flatMap_pieces_text {n : Name} (h : ∀ c ∈ n.text.toList.getLast?, c ≠ separator) :
    (pieces [n.text]).flatMap (separator :: ·) = n.text.toList := by
  obtain ⟨c, r, htext, hc⟩ := n.canonical
  rw [htext, List.getLast?_cons_cons] at h
  have htrim : trimSegment n.text = c :: r := by
    refine trimSegment_eq_iff.2 ⟨⟨[separator], [], by simp [htext], ?_, nofun⟩, ?_, ?_⟩
    · simp [isSeparator]
    · simpa [isSeparator] using hc
    · intro d hd
      simpa [isSeparator] using h d hd
  simp [pieces, htrim, htext]

/-- The texts of two names in a row are the text of a name, which the segments of both make. -/
theorem exists_flattened {xs ys : List String} {m n : Name} (hm : ofSegments? xs = some m)
    (hn : ofSegments? ys = some n) :
    ∃ p : Name, p.text = m.text ++ n.text ∧ ofSegments? [m.text, n.text] = some p ∧
      ofSegments? (xs ++ ys) = some p := by
  refine ⟨⟨m.text ++ n.text, m.canonical.append n.text⟩, rfl, ?_, ?_⟩
  · have hpair : [m.text, n.text] = [m.text] ++ [n.text] := rfl
    rw [ofSegments?_eq_some_iff, hpair, pieces_append, List.flatMap_append,
      flatMap_pieces_text (getLast?_text_ne hm), flatMap_pieces_text (getLast?_text_ne hn)]
    exact String.toList_append
  · rw [ofSegments?_eq_some_iff, pieces_append, List.flatMap_append,
      ← ofSegments?_eq_some_iff.1 hm, ← ofSegments?_eq_some_iff.1 hn]
    exact String.toList_append

/-- Segments make the name of the path through them, and they make none exactly when they consist of
separators. Separators around segments and segments of nothing else do not count, no name made of
segments ends in a separator, and names made of segments may be taken for segments again. -/
theorem segments_flatten (xs ys : List String) :
    (∀ n, ofSegments xs = .ok n ↔ Leads xs n.text.toList) ∧
      (∀ e, ofSegments xs = .error e ↔
        (∀ s ∈ xs, OnlySeparators s) ∧ e = .validation .emptyName) ∧
      (Relation.EqvGen SegmentEdit xs ys → ofSegments xs = ofSegments ys) ∧
      (∀ n, ofSegments xs = .ok n →
        n.text.toList.getLast? ≠ some separator ∧ ofSegments [n.text] = .ok n) ∧
      ∀ m n, ofSegments xs = .ok m → ofSegments ys = .ok n →
        ∃ p, p.text = m.text ++ n.text ∧ ofSegments [m.text, n.text] = .ok p ∧
          ofSegments (xs ++ ys) = .ok p := by
  simp only [ofSegments_eq_ok_iff]
  refine ⟨fun n => ?_, fun e => ofSegments_eq_error_iff, ?_, ?_, ?_⟩
  · rw [ofSegments?_eq_some_iff, leads_iff]
  · intro h
    exact ofSegments_congr (pieces_eq_of_eqvGen h)
  · intro n hn
    have hlast := getLast?_text_ne hn
    refine ⟨fun hend => hlast separator hend rfl, ?_⟩
    exact ofSegments?_eq_some_iff.2 (flatMap_pieces_text hlast).symm
  · intro m n hm hn
    exact exists_flattened hm hn

/-- Two slashes inside a segment stay, those around it and the empty segment do not count. -/
theorem slashedSegments_flatten :
    ofSegments ["", "a//b/"] = ofSegments ["a//b"] ∧
      ∃ m n p, ofSegments ["", "a//b/"] = .ok m ∧ ofSegments ["/c"] = .ok n ∧
        m.text = "/a//b" ∧ m.text.toList.getLast? ≠ some separator ∧
        ofSegments [m.text] = .ok m ∧ p.text = "/a//b/c" ∧
        ofSegments [m.text, n.text] = .ok p ∧ ofSegments ["", "a//b/", "/c"] = .ok p := by
  have hinsert : SegmentEdit ["a//b/"] ["", "a//b/"] :=
    @SegmentEdit.insert [] ["a//b/"] "" (by decide)
  have haround : SegmentEdit ["a//b"] ["a//b/"] :=
    @SegmentEdit.around [] [] "" "a//b" "/" (by decide) (by decide)
  have hm : ofSegments ["", "a//b/"] = .ok ⟨"/a//b", 'a', _, rfl, by decide⟩ := rfl
  have hn : ofSegments ["/c"] = .ok ⟨"/c", 'c', _, rfl, by decide⟩ := rfl
  obtain ⟨-, -, -, hstable, hflat⟩ := segments_flatten ["", "a//b/"] ["/c"]
  obtain ⟨p, hp, htexts, hsegments⟩ := hflat _ _ hm hn
  obtain ⟨hlast, hagain⟩ := hstable _ hm
  refine ⟨?_, _, _, p, hm, hn, rfl, hlast, hagain, hp, htexts, hsegments⟩
  exact ((segments_flatten ["", "a//b/"] ["a//b"]).2.2.1
    (.trans _ _ _ (.symm _ _ (.rel _ _ hinsert)) (.symm _ _ (.rel _ _ haround))))

end Credentials.Name
