import Credentials.Proofs.Http.Percent
import Credentials.Proofs.Http.Site
import Credentials.Proofs.Text.Parts

/-!
# Identifiers in paths

The request for a version of a credential ends in the identifier, and the URL is read as one text, so
whether the identifier arrives as the last segment depends on how URLs are read. Of the identifiers
that the client accepts, those do that hold no backslash, are no dot or double dot, end in no control
character and leave the URL short enough; no other one arrives. Main statement:
`identifier_arrives_iff`.
-/

namespace Credentials.Http

open Url

/-! ## Segments -/

theorem toLower_eq_iff {c d : Char} (hd : d.toNat < 65) : c.toLower = d ↔ c = d := by
  unfold Char.toLower
  split
  · rename_i h
    have hlow : 65 ≤ c.val.toNat := UInt32.le_iff_toNat_le.1 h.1
    have hhigh : c.val.toNat ≤ 90 := UInt32.le_iff_toNat_le.1 h.2
    have hsum : (c.val + ('a'.val - 'A'.val)).toNat = c.val.toNat + 32 := by
      rw [UInt32.toNat_add, show ('a'.val - 'A'.val).toNat = 32 from rfl]
      omega
    refine iff_of_false ?_ ?_
    · rintro rfl
      have hbound : (c.val + ('a'.val - 'A'.val)).toNat < 65 := hd
      omega
    · rintro rfl
      have hbound : c.val.toNat < 65 := hd
      omega
  · rfl

theorem percent_not_mem_map {s : List Char} (h : '%' ∉ s) : '%' ∉ s.map Char.toLower := by
  rw [List.mem_map]
  rintro ⟨c, hc, hlower⟩
  rw [toLower_eq_iff (by decide)] at hlower
  exact h (hlower ▸ hc)

theorem isDot_iff {s : List Char} (h : '%' ∉ s) : isDot s = true ↔ s = ['.'] := by
  have hpercent := percent_not_mem_map h
  have hencoded : s.map Char.toLower ≠ ['%', '2', 'e'] := fun heq => hpercent (by simp [heq])
  simp [isDot, hencoded]

theorem isDoubleDot_iff {s : List Char} (h : '%' ∉ s) : isDoubleDot s = true ↔ s = ['.', '.'] := by
  have hpercent := percent_not_mem_map h
  have hencoded {t : List Char} (ht : '%' ∈ t) : s.map Char.toLower ≠ t :=
    fun heq => hpercent (heq ▸ ht)
  have hdots : s.map Char.toLower = ['.', '.'] ↔ s = ['.', '.'] := by
    rcases s with _ | ⟨c, _ | ⟨d, _ | ⟨e, s⟩⟩⟩ <;> simp [toLower_eq_iff]
  simp only [isDoubleDot, Bool.or_eq_true, beq_iff_eq, hdots]
  simp [hencoded]

/-- What the last of several segments is resolved to. -/
def lastSegment (s : List Char) : List Char := if isDoubleDot s || isDot s then [] else s

/-- The last segment stays last, and empty if it is a dot or a double dot. -/
theorem exists_resolve_eq_concat (done : List (List Char)) {pieces : List (List Char)}
    (h : pieces ≠ []) : ∃ before, resolve done pieces = before ++ [lastSegment (pieces.getLast h)] := by
  induction pieces generalizing done with
  | nil => exact absurd rfl h
  | cons s pieces ih =>
    cases pieces with
    | nil =>
      rw [resolve, lastSegment, List.getLast_singleton]
      by_cases hdouble : isDoubleDot s = true
      · exact ⟨above done, by simp [hdouble]⟩
      · by_cases hdot : isDot s = true
        · exact ⟨done, by simp [hdouble, hdot]⟩
        · exact ⟨done, by simp [hdouble, hdot]⟩
    | cons t rest =>
      rw [resolve, List.getLast_cons (List.cons_ne_nil t rest)]
      split
      · exact ih _ _
      · split
        · exact ih _ _
        · exact ih _ _

/-- The path of an identifier has the segments of all credentials in front, unless the identifier leaves
them. -/
theorem segmentsOf_data (s : List Char) :
    segmentsOf ('/' :: ("api/v1/data".toList ++ '/' :: s)) =
      (resolve ["api".toList, "v1".toList, "data".toList] (s.splitOnP isSlash)).map
        (percentEncode inPathSet) := by
  have hapi : ∀ c ∈ "api".toList, isSlash c = false := by simp [isSlash]
  have hversion : ∀ c ∈ "v1".toList, isSlash c = false := by simp [isSlash]
  have hdata : ∀ c ∈ "data".toList, isSlash c = false := by simp [isSlash]
  have hslash : isSlash '/' = true := by decide
  have hpath : ('/' :: ("api/v1/data".toList ++ '/' :: s)).drop 1 =
      "api".toList ++ '/' :: ("v1".toList ++ '/' :: ("data".toList ++ '/' :: s)) := rfl
  have hsplit : (('/' :: ("api/v1/data".toList ++ '/' :: s)).drop 1).splitOnP isSlash =
      "api".toList :: "v1".toList :: "data".toList :: s.splitOnP isSlash := by
    rw [hpath, List.splitOnP_append_cons_of_forall_mem hapi _ hslash,
      List.splitOnP_append_cons_of_forall_mem hversion _ hslash,
      List.splitOnP_append_cons_of_forall_mem hdata _ hslash]
  rw [segmentsOf, hsplit]
  obtain ⟨t, ts, ht⟩ := List.exists_cons_of_ne_nil (List.splitOnP_ne_nil isSlash s)
  rw [ht]
  rfl

/-- What stands behind the last slash is settled by the text. -/
theorem eq_of_append_cons_eq {α : Type} {x : α} {xs ys as bs : List α}
    (h : xs ++ x :: as = ys ++ x :: bs) (ha : x ∉ as) (hb : x ∉ bs) : as = bs := by
  classical
  have hlast {z cs : List α} (hc : x ∉ cs) :
      (z ++ x :: cs).reverse.takeWhile (· ≠ x) = cs.reverse := by
    have hall : ∀ c ∈ cs.reverse, (decide (c ≠ x)) = true := by
      intro c hmem
      exact decide_eq_true fun heq => hc (heq ▸ List.mem_reverse.1 hmem)
    rw [List.reverse_append, List.reverse_cons, List.append_assoc,
      List.takeWhile_append_of_pos hall]
    simp
  have hreverse := hlast (z := xs) ha
  rw [h, hlast hb] at hreverse
  exact (List.reverse_inj.1 hreverse).symm

/-! ## Accepted identifiers -/

/-- An identifier is accepted if it is not empty and holds no forbidden character. -/
theorem isAcceptedId_iff {id : String} :
    Client.isAcceptedId id = true ↔
      id.toList ≠ [] ∧ ∀ c ∈ id.toList, Client.isForbidden c = false := by
  simp [Client.isAcceptedId]

theorem ne_of_not_isForbidden {c : Char} (h : Client.isForbidden c = false) :
    c ≠ '/' ∧ c ≠ '?' ∧ c ≠ '#' ∧ c ≠ '%' ∧ Text.isBlank c = false := by
  simpa [Client.isForbidden, and_assoc] using h

/-- The identifier is read as one segment, which is not resolved. -/
structure StaysSegment (id : String) : Prop where
  noBackslash : '\\' ∉ id.toList
  notDot : id ≠ "."
  notDoubleDot : id ≠ ".."
  /-- The last character is not dropped with what is dropped at the end of a URL. -/
  kept : ∀ c ∈ id.toList.getLast?, isControlOrSpace c = false

theorem keptPath_sublist (s : List Char) : (keptPath s).Sublist s :=
  List.filter_sublist.trans (List.rdropWhile_prefix _ _).sublist

/-- A path stays as it is unless it ends in a control character or a space. -/
theorem keptPath_eq_self_iff {s : List Char} (h : ∀ c ∈ s, isTabOrBreak c = false) :
    keptPath s = s ↔ ∀ c ∈ s.getLast?, isControlOrSpace c = false := by
  have hkept : keptPath s = s.rdropWhile isControlOrSpace := by
    refine List.filter_eq_self.2 fun c hc => ?_
    have hmem : c ∈ s := (List.rdropWhile_prefix _ _).subset hc
    simp [h c hmem]
  rw [hkept, List.rdropWhile_eq_self_iff]
  constructor
  · intro hlast c hc
    obtain ⟨hne, rfl⟩ := List.mem_getLast?_eq_getLast hc
    simpa using hlast hne
  · intro hlast hne
    simpa using hlast _ (List.getLast?_eq_some_getLast hne)

section

variable {id : String} (hid : Client.isAcceptedId id = true)
include hid

theorem percent_not_mem_of_isAcceptedId : '%' ∉ id.toList := fun h =>
  (ne_of_not_isForbidden ((isAcceptedId_iff.1 hid).2 _ h)).2.2.2.1 rfl

theorem isTabOrBreak_of_isAcceptedId : ∀ c ∈ id.toList, isTabOrBreak c = false := by
  intro c hc
  have hblank := (ne_of_not_isForbidden ((isAcceptedId_iff.1 hid).2 c hc)).2.2.2.2
  exact isTabOrBreak_eq_false (p := Text.isBlank) (by simp [Text.isBlank]) hblank

/-- An identifier that stays a segment is not divided. -/
theorem splitOnP_isSlash_of_staysSegment (h : StaysSegment id) :
    id.toList.splitOnP isSlash = [id.toList] := by
  refine List.splitOnP_eq_singleton fun c hc => ?_
  have hslash := (ne_of_not_isForbidden ((isAcceptedId_iff.1 hid).2 c hc)).1
  have hbackslash : c ≠ '\\' := fun heq => h.noBackslash (heq ▸ hc)
  simp [isSlash, hslash, hbackslash]

/-- The only identifiers that are resolved are those of one dot and of two. -/
theorem lastSegment_eq_self_iff :
    lastSegment id.toList = id.toList ↔ id ≠ "." ∧ id ≠ ".." := by
  have hpercent := percent_not_mem_of_isAcceptedId hid
  have hdot : isDot id.toList = true ↔ id = "." :=
    (isDot_iff hpercent).trans ⟨fun h => String.toList_injective h, fun h => congrArg _ h⟩
  have hdouble : isDoubleDot id.toList = true ↔ id = ".." :=
    (isDoubleDot_iff hpercent).trans ⟨fun h => String.toList_injective h, fun h => congrArg _ h⟩
  have hne := (isAcceptedId_iff.1 hid).1
  unfold lastSegment
  split
  · rename_i h
    rw [Bool.or_eq_true, hdot, hdouble] at h
    refine iff_of_false hne.symm ?_
    rintro ⟨hnotDot, hnotDouble⟩
    exact h.elim hnotDouble hnotDot
  · rename_i h
    rw [Bool.or_eq_true, hdot, hdouble, not_or] at h
    exact iff_of_true rfl h.symm

/-- The segments of the path to a version whose identifier stays one segment. -/
theorem segmentsOf_of_staysSegment (h : StaysSegment id) :
    segmentsOf ('/' :: ("api/v1/data".toList ++ '/' :: keptPath id.toList)) =
      ["api".toList, "v1".toList, "data".toList, percentEncode inPathSet id.toList] := by
  have hlast := (lastSegment_eq_self_iff hid).2 ⟨h.notDot, h.notDoubleDot⟩
  have hne := (isAcceptedId_iff.1 hid).1
  have hdots : (isDoubleDot id.toList || isDot id.toList) = false := by
    by_contra hdots
    rw [lastSegment, if_pos (by simpa only [Bool.not_eq_false] using hdots)] at hlast
    exact hne hlast.symm
  obtain ⟨hdouble, hdot⟩ := Bool.or_eq_false_iff.1 hdots
  rw [(keptPath_eq_self_iff (isTabOrBreak_of_isAcceptedId hid)).2 h.kept, segmentsOf_data,
    splitOnP_isSlash_of_staysSegment hid h, resolve]
  simp only [hdouble, hdot, Bool.false_eq_true, if_false]
  rfl

/-- Only an identifier that stays one segment can be decoded from what follows the last slash. -/
theorem staysSegment_of_path {seg : List Char}
    (hpath : (segmentsOf ('/' :: ("api/v1/data".toList ++ '/' :: keptPath id.toList))).flatMap
      (fun s => '/' :: s) = "/api/v1/data".toList ++ '/' :: seg)
    (hseg : '/' ∉ seg) (hdecode : Text.Utf8.strict? (percentDecode seg) = some id) :
    StaysSegment id := by
  obtain ⟨hid_ne, hallowed⟩ := isAcceptedId_iff.1 hid
  have hne := List.splitOnP_ne_nil isSlash (keptPath id.toList)
  obtain ⟨before, hresolve⟩ :=
    exists_resolve_eq_concat ["api".toList, "v1".toList, "data".toList] hne
  generalize hpiece : ((keptPath id.toList).splitOnP isSlash).getLast hne = piece at hresolve
  have hmem : piece ∈ (keptPath id.toList).splitOnP isSlash := hpiece ▸ List.getLast_mem hne
  obtain ⟨hchars, hlength⟩ := Text.of_mem_splitOnP hmem
  -- The last segment is empty or that piece; either way it holds no slash and no percent sign.
  have hsub : lastSegment piece ⊆ piece := by
    unfold lastSegment
    split
    · exact List.nil_subset _
    · exact List.Subset.refl _
  have hslash : '/' ∉ percentEncode inPathSet (lastSegment piece) := by
    intro h
    rcases mem_percentEncode h with h | ⟨h, -⟩
    · exact absurd h (by decide)
    · exact absurd (hchars _ (hsub h)).1 (by decide)
  have hpercent : ∀ c ∈ lastSegment piece, c = '%' → inPathSet c = true := by
    rintro c hc rfl
    exact absurd ((keptPath_sublist _).subset (hchars _ (hsub hc)).2)
      (percent_not_mem_of_isAcceptedId hid)
  rw [segmentsOf_data, hresolve, List.map_append, List.map_singleton, List.flatMap_append,
    List.flatMap_singleton] at hpath
  have hlast : percentEncode inPathSet (lastSegment piece) = seg :=
    eq_of_append_cons_eq hpath hslash hseg
  rw [← hlast, strict?_percentDecode_percentEncode hpercent] at hdecode
  have hid_eq : lastSegment piece = id.toList := by
    rw [← Option.some.inj hdecode, String.toList_ofList]
  -- Since it is the identifier it is not empty, and so it is the whole piece.
  have hwhole : piece = id.toList := by
    unfold lastSegment at hid_eq
    split at hid_eq
    · exact absurd hid_eq.symm hid_ne
    · exact hid_eq
  rw [hwhole] at hchars hlength hid_eq
  have hkept : keptPath id.toList = id.toList :=
    (keptPath_sublist _).eq_of_length_le hlength
  obtain ⟨hnotDot, hnotDoubleDot⟩ := (lastSegment_eq_self_iff hid).1 hid_eq
  exact
    { noBackslash := fun h => absurd (hchars _ h).1 (by decide)
      notDot := hnotDot
      notDoubleDot := hnotDoubleDot
      kept := (keptPath_eq_self_iff (isTabOrBreak_of_isAcceptedId hid)).1 hkept }

end

/-! ## Requests for versions -/

theorem Site.target_url (a : Site) (segments : List (List Char)) :
    (a.url segments).target = String.ofList (segments.flatMap fun s => '/' :: s) := by
  rw [Url.target, Url.path]
  exact congrArg String.ofList (List.append_nil _)

/-- The URL of a version on the site. -/
def Site.versionUrl (a : Site) (id : String) : Url :=
  a.url ["api".toList, "v1".toList, "data".toList, percentEncode inPathSet id.toList]

/-- The request asks for the version of an identifier and for nothing else: what stands in the path
of all versions is one segment, which is not empty and decodes to the identifier. -/
structure Arrival.IsForVersion (x : Arrival) (id : String) : Prop where
  method : x.method = .get
  target : ∃ seg, x.target = "/api/v1/data/" ++ String.ofList seg ∧ seg ≠ [] ∧ '/' ∉ seg ∧
    '?' ∉ seg ∧ Text.Utf8.strict? (percentDecode seg) = some id

/-- A request for the URL of a version is one for the version. -/
theorem isForVersion_versionUrl (t : Transport) (a : Site) {id : String}
    (hid : Client.isAcceptedId id = true) :
    (t.arrival (Client.versionRequest id) (a.versionUrl id)).IsForVersion id := by
  have hpercent : ∀ c ∈ id.toList, c = '%' → inPathSet c = true := by
    rintro c hc rfl
    exact absurd hc (percent_not_mem_of_isAcceptedId hid)
  have hnot {c : Char} (hc : c = '/' ∨ c = '?') : c ∉ percentEncode inPathSet id.toList := by
    intro hmem
    rcases mem_percentEncode hmem with hmem | ⟨hmem, -⟩
    · rcases hc with rfl | rfl <;> exact absurd hmem (by decide)
    · obtain ⟨hslash, hquery, -⟩ := ne_of_not_isForbidden ((isAcceptedId_iff.1 hid).2 c hmem)
      exact hc.elim hslash hquery
  refine ⟨rfl, percentEncode inPathSet id.toList, ?_, ?_, hnot (.inl rfl), hnot (.inr rfl), ?_⟩
  · refine (a.target_url _).trans (String.toList_injective ?_)
    rw [String.toList_append, String.toList_ofList, String.toList_ofList]
    simp
  · exact percentEncode_ne_nil hpercent (isAcceptedId_iff.1 hid).1
  · rw [strict?_percentDecode_percentEncode hpercent, String.ofList_toList]

/-- The URL of a request for a version is that of its path on the site. -/
theorem url?_versionRequest {t : Transport} {w : World} {a : Site} (h : t.Serves w a) {id : String}
    (hid : Client.isAcceptedId id = true) :
    t.url? (Client.versionRequest id) = some (a.url (segmentsOf
      ('/' :: ("api/v1/data".toList ++ '/' :: keptPath id.toList)))) := by
  have hpath : (Client.versionRequest id).path.toList =
      '/' :: ("api/v1/data".toList ++ '/' :: id.toList) := by
    simp [Client.versionRequest, Client.dataPath, String.toList_append]
  have hkept : keptPath ("api/v1/data".toList ++ '/' :: id.toList) =
      "api/v1/data".toList ++ '/' :: keptPath id.toList :=
    keptPath_append_cons (by decide) (by simp [isTabOrBreak]) _
  have hdata : ∀ c ∈ "api/v1/data".toList, c ≠ '?' ∧ c ≠ '#' := by simp
  have hmarks : ∀ c ∈ keptPath ("api/v1/data".toList ++ '/' :: id.toList), c ≠ '?' ∧ c ≠ '#' := by
    intro c hc
    rw [hkept] at hc
    rcases List.mem_append.1 hc with hc | hc
    · exact hdata c hc
    · rcases List.mem_cons.1 hc with rfl | hc
      · decide
      · have hmem := (keptPath_sublist _).subset hc
        obtain ⟨-, hquery, hfragment, -⟩ :=
          ne_of_not_isForbidden ((isAcceptedId_iff.1 hid).2 c hmem)
        exact ⟨hquery, hfragment⟩
  rw [Transport.url?, h.base, a.ofString?_append hpath hmarks, hkept]
  rfl

/-- An identifier that is refused leads to no event at all. Of those that are accepted, exactly the
ones that stay one segment, in a URL that is short enough, lead to one request for the version, as long
as the way to the server is open and its reply does not send the client elsewhere. -/
theorem identifier_arrives_iff {t : Transport} {w : World} {a : Site} (h : t.Serves w a)
    (id : String) (expected : Option Kind) {replies : List Reply}
    (hstays : ∀ r ∈ replies.head?, r.redirect? = none) :
    (Client.isAcceptedId id = false →
      (Client.getById (t.send w) id expected).run replies =
        ⟨.error (.validation (.invalidId id)), [], replies⟩) ∧
    (Client.isAcceptedId id = true →
      ((∃ x, Program.arrivals ((Client.getById (t.send w) id expected).run replies).events = [x] ∧
          x.IsForVersion id) ↔
        StaysSegment id ∧ (a.versionUrl id).text.utf8ByteSize ≤ Url.longest)) := by
  refine ⟨fun hid => ?_, fun hid => ?_⟩
  · rw [Client.getById_of_not_isAcceptedId _ hid]
    rfl
  have hcall := Client.unlogged_getById (t.send w) hid expected
  have hsent := sentElsewhere_eq_zero_iff.2 hstays
  constructor
  · rintro ⟨x, hx, hversion⟩
    obtain ⟨seg, htarget, -, hslash, -, hdecode⟩ := hversion.target
    cases hdestination : t.destination w (Client.versionRequest id) with
    | error e =>
      rw [Transport.arrivals_of_destination_error hcall hdestination] at hx
      cases hx
    | ok u =>
      obtain ⟨later, harrivals, -⟩ := Transport.arrivals_of_destination hcall hdestination replies
      obtain ⟨hurl, hopens⟩ := Transport.destination_eq_ok_iff.1 hdestination
      rw [url?_versionRequest h hid] at hurl
      cases hurl
      rw [harrivals, Transport.firstArrival_of_direct (h.isOpen t.roots _ rfl rfl rfl)] at hx
      cases hx
      have htext : ("/api/v1/data/" ++ String.ofList seg).toList =
          "/api/v1/data".toList ++ '/' :: seg := by
        simp [String.toList_append]
      have hpath := congrArg String.toList ((a.target_url _).symm.trans htarget)
      have hsegment := staysSegment_of_path hid
        (String.toList_ofList.symm.trans (hpath.trans htext)) hslash hdecode
      rw [segmentsOf_of_staysSegment hid hsegment] at hopens
      exact ⟨hsegment, (h.opens_iff rfl rfl rfl).1 hopens⟩
  · rintro ⟨hsegment, hlength⟩
    have hdestination : t.destination w (Client.versionRequest id) = .ok (a.versionUrl id) := by
      refine Transport.destination_eq_ok_iff.2 ⟨?_, (h.opens_iff rfl rfl rfl).2 hlength⟩
      rw [url?_versionRequest h hid, segmentsOf_of_staysSegment hid hsegment]
      rfl
    obtain ⟨later, harrivals, hlater⟩ :=
      Transport.arrivals_of_destination hcall hdestination replies
    rw [hlater hsent, Transport.firstArrival_of_direct (h.isOpen t.roots _ rfl rfl rfl)]
      at harrivals
    exact ⟨_, harrivals, isForVersion_versionUrl t a hid⟩

/-- The answer that there is no such version. -/
def notFound : Reply := .answer { status := 404, body := .text "" }

/-- An identifier with braces and an umlaut arrives in one segment. -/
theorem braced_identifier_arrives :
    ∃ x, Program.arrivals ((Client.getById (loopback.send loopbackWorld) "\x7bä\x7d" none).run
      [notFound]).events = [x] ∧ x.IsForVersion "\x7bä\x7d" := by
  have hsegment : StaysSegment "\x7bä\x7d" :=
    ⟨by decide, by decide, by decide, by simp [isControlOrSpace]⟩
  have hstays : ∀ r ∈ [notFound].head?, r.redirect? = none := by
    rintro r ⟨rfl⟩
    rfl
  exact ((identifier_arrives_iff loopback_serves "\x7bä\x7d" none hstays).2 (by decide)).2
    ⟨hsegment, by decide +kernel⟩

/-- Two dots are accepted as an identifier, and the request goes to the parent of all credentials. -/
theorem doubleDot_leaves_path :
    Client.isAcceptedId ".." = true ∧
      (Program.arrivals ((Client.getById (loopback.send loopbackWorld) ".." none).run
        []).events).map (fun x => (x.method, x.target)) = [(.get, "/api/v1/")] ∧
      ¬ ∃ x, Program.arrivals ((Client.getById (loopback.send loopbackWorld) ".." none).run
        []).events = [x] ∧ x.IsForVersion ".." := by
  have htargets : (Program.arrivals ((Client.getById (loopback.send loopbackWorld) ".." none).run
      []).events).map (fun x => (x.method, x.target)) = [(.get, "/api/v1/")] := by
    decide +kernel
  refine ⟨by decide, htargets, ?_⟩
  rintro ⟨x, hx, hversion⟩
  obtain ⟨seg, htarget, -⟩ := hversion.target
  rw [hx, List.map_singleton, htarget] at htargets
  have htext := congrArg (fun l => (l.map fun p => p.2.toList)) htargets
  simp [String.toList_append] at htext

end Credentials.Http
