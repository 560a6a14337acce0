import Credentials.Proofs.Http.Transport
import Mathlib.Data.List.DropRight

/-!
# URLs below a base URL

A `Site` is the authority in a base URL without a path. The URL that is read from the base URL and a
path behind it names the site, whatever the path is, and the path alone decides its segments
(`Site.ofString?_append`): nothing of the path can become a part of the authority, because the path
starts with a slash. Such a URL is within reach of a transport to the site exactly when its text is
not too long (`Transport.Serves.obstacle?_eq_none_iff`).
-/

namespace Credentials.Http

open Url

/-- The authority in a base URL, and what is read from it. -/
structure Site where
  /-- The authority as it is written. -/
  text : List Char
  host : Host
  port : Option Nat
  text_ne_nil : text ≠ []
  /-- Nothing in the authority ends it or is dropped from it. -/
  plain : ∀ c ∈ text, endsAuthority c = false ∧ isTabOrBreak c = false
  /-- The host and the port are read from the authority. -/
  reads : ∃ hostText portText, hostAndPort (behindUser text) = some (hostText, portText) ∧
    Host.ofChars? hostText = some host ∧ port? false portText = some port
  askable : host.isAskable = true

namespace Site

/-- The base URL of the site. -/
def base (a : Site) : String := "http://" ++ String.ofList a.text

/-- The URL of a path on the site. -/
def url (a : Site) (segments : List (List Char)) : Url where
  secure := false
  user := User.ofChars? (beforeHost a.text)
  userText :=
    if (User.ofChars? (beforeHost a.text)).isSome then [] else User.textOfChars (beforeHost a.text)
  host := a.host
  port := a.port
  segments := segments
  query := none
  fragment := none

/-- The host and the port of the site. -/
def authority (a : Site) : String := (a.url []).authority

end Site

/-! ## Reading the URL -/

/-- What counts of a path at the end of a URL. -/
def keptPath (path : List Char) : List Char :=
  (path.rdropWhile isControlOrSpace).filter fun c => !isTabOrBreak c

theorem rdropWhile_append_cons {p : Char → Bool} {c : Char} (h : p c = false) (xs ys : List Char) :
    (xs ++ c :: ys).rdropWhile p = xs ++ c :: ys.rdropWhile p := by
  have hc : ¬ p c = true := by simp [h]
  simp only [List.rdropWhile, List.reverse_append, List.reverse_cons, List.append_assoc,
    List.dropWhile_append]
  by_cases hys : (List.dropWhile p ys.reverse).isEmpty = true
  · have hnil := List.isEmpty_iff.1 hys
    simp [hnil, List.dropWhile_cons_of_neg hc]
  · simp [hys]

/-- A character outside of a set that holds tabs and line breaks is none of them. -/
theorem isTabOrBreak_eq_false {p : Char → Bool} (hp : ∀ c ∈ ['\t', '\n', '\r'], p c = true)
    {c : Char} (h : p c = false) : isTabOrBreak c = false := by
  by_contra hc
  simp only [isTabOrBreak, Bool.not_eq_false, Bool.or_eq_true, beq_iff_eq] at hc
  have hmem : c ∈ ['\t', '\n', '\r'] := by
    rcases hc with (rfl | rfl) | rfl <;> simp
  rw [hp c hmem] at h
  cases h

/-- What stands in front of a character that is kept is kept. -/
theorem keptPath_append_cons {c : Char} (h : isControlOrSpace c = false) {xs : List Char}
    (hxs : ∀ x ∈ xs, isTabOrBreak x = false) (ys : List Char) :
    keptPath (xs ++ c :: ys) = xs ++ c :: keptPath ys := by
  have hc : isTabOrBreak c = false :=
    isTabOrBreak_eq_false (p := isControlOrSpace) (by simp [isControlOrSpace]) h
  have hkept : xs.filter (fun x => !isTabOrBreak x) = xs := by
    rw [List.filter_eq_self]
    intro x hx
    simp [hxs x hx]
  rw [keptPath, rdropWhile_append_cons h, List.filter_append, hkept, List.filter_cons, hc]
  rfl

theorem strip_eq {c : Char} (h : isControlOrSpace c = false) (s : List Char) :
    strip (c :: s) = keptPath (c :: s) := by
  rw [strip, Text.trimBoth, List.dropWhile_cons_of_neg (by simp [h])]
  rfl

theorem behind?_eq_none {mark : Char} {s : List Char} (h : ∀ c ∈ s, c ≠ mark) :
    behind? mark s = none := by
  have hnil : s.dropWhile (· ≠ mark) = [] :=
    List.dropWhile_eq_nil_iff.2 fun c hc => decide_eq_true (h c hc)
  rw [behind?, hnil]

namespace Site

variable (a : Site)

theorem not_isSlash {c : Char} (hc : c ∈ a.text) : isSlash c = false := by
  have hplain := (a.plain c hc).1
  simp only [endsAuthority, Bool.or_eq_false_iff] at hplain
  exact hplain.1.1

/-- Nothing is stripped off the site, only off the end of the path. -/
theorem strip_append (rest : List Char) :
    strip ("http://".toList ++ (a.text ++ '/' :: rest)) =
      "http://".toList ++ (a.text ++ '/' :: keptPath rest) := by
  have hscheme : ∀ x ∈ "http://".toList, isTabOrBreak x = false := by simp [isTabOrBreak]
  have hkept : ∀ x ∈ "http://".toList ++ a.text, isTabOrBreak x = false := by
    intro x hx
    rcases List.mem_append.1 hx with hx | hx
    · exact hscheme x hx
    · exact (a.plain x hx).2
  have hstrip : strip ("http://".toList ++ (a.text ++ '/' :: rest)) =
      keptPath ("http://".toList ++ (a.text ++ '/' :: rest)) := strip_eq (by decide) _
  rw [hstrip, ← List.append_assoc, keptPath_append_cons (by decide) hkept, List.append_assoc]

/-- The authority is what stands between the slashes and the path. -/
theorem dropWhile_isSlash (s : List Char) :
    ('/' :: '/' :: (a.text ++ s)).dropWhile isSlash = a.text ++ s := by
  obtain ⟨c, t, htext⟩ := List.exists_cons_of_ne_nil a.text_ne_nil
  have hc : isSlash c = false := a.not_isSlash (by simp [htext])
  have hslash : isSlash '/' = true := by decide
  rw [List.dropWhile_cons_of_pos hslash, List.dropWhile_cons_of_pos hslash, htext, List.cons_append,
    List.dropWhile_cons_of_neg (by simp [hc])]

/-- A path behind the base URL is read as a path of the site, without the controls at its end. -/
theorem ofString?_append {path : String} {rest : List Char} (hslash : path.toList = '/' :: rest)
    (hmarks : ∀ c ∈ keptPath rest, c ≠ '?' ∧ c ≠ '#') :
    Url.ofString? (a.base ++ path) = some (a.url (segmentsOf ('/' :: keptPath rest))) := by
  have htext : (a.base ++ path).toList = "http://".toList ++ (a.text ++ '/' :: rest) := by
    simp only [base, String.toList_append, String.toList_ofList, hslash, List.append_assoc]
  have hscheme (s : List Char) : scheme? ("http://".toList ++ s) = some (false, '/' :: '/' :: s) :=
    rfl
  have hauthority : ∀ c ∈ a.text, (!endsAuthority c) = true := by
    intro c hc
    simp [(a.plain c hc).1]
  have hnone : ('/' :: keptPath rest).takeWhile (fun c => !endsAuthority c) = [] :=
    List.takeWhile_cons_of_neg (by decide)
  have hrest : ('/' :: keptPath rest).dropWhile (fun c => !endsAuthority c) = '/' :: keptPath rest :=
    List.dropWhile_cons_of_neg (by decide)
  have hquery : ∀ c ∈ '/' :: keptPath rest, c ≠ '?' :=
    List.forall_mem_cons.2 ⟨by decide, fun c hc => (hmarks c hc).1⟩
  have hfragment : ∀ c ∈ '/' :: keptPath rest, c ≠ '#' :=
    List.forall_mem_cons.2 ⟨by decide, fun c hc => (hmarks c hc).2⟩
  have hbefore : ('/' :: keptPath rest).takeWhile (· ≠ '#') = '/' :: keptPath rest :=
    List.takeWhile_eq_self_iff.2 fun c hc => decide_eq_true (hfragment c hc)
  have hpath : ('/' :: keptPath rest).takeWhile (· ≠ '?') = '/' :: keptPath rest :=
    List.takeWhile_eq_self_iff.2 fun c hc => decide_eq_true (hquery c hc)
  obtain ⟨hostText, portText, hread, hhost, hport⟩ := a.reads
  unfold Url.ofString?
  rw [htext, strip_append, hscheme]
  simp only [dropWhile_isSlash, List.dropWhile_append_of_pos hauthority,
    List.takeWhile_append_of_pos hauthority, hnone, hrest, List.append_nil, hread, hhost, hport,
    hbefore, hpath,
    behind?_eq_none hquery, behind?_eq_none hfragment, Option.map_none]
  rfl

end Site

/-! ## Reaching the site -/

/-- Requests of a client with these options get to the server of the site: a connection comes about in
time, and there is no proxy. -/
def Site.IsOpen (a : Site) (w : World) (o : Options) : Prop :=
  ∀ roots u, u.secure = false → u.host = a.host → u.port = a.port → w.passage o roots u = .direct

/-- The base URL is that of the site, to which the way is open, and the token may be sent. -/
structure Transport.Serves (t : Transport) (w : World) (a : Site) : Prop where
  base : t.base = a.base
  token : Transport.isAcceptedToken t.token = true
  isOpen : a.IsOpen w t.options

/-- Only the length of its text can keep a URL of the site out of reach. -/
theorem Transport.Serves.opens_iff {t : Transport} {w : World} {a : Site} (h : t.Serves w a)
    {u : Url} (hsecure : u.secure = false) (hhost : u.host = a.host) (hport : u.port = a.port) :
    t.Opens w u ↔ u.text.utf8ByteSize ≤ Url.longest := by
  have haskable : u.isAskable = true ↔ u.text.utf8ByteSize ≤ Url.longest := by
    rw [isAskable, hhost, a.askable, Bool.true_and, decide_eq_true_eq]
  constructor
  · intro hopens
    exact haskable.1 hopens.askable
  · intro hshort
    exact ⟨h.token, haskable.2 hshort, .inl (h.isOpen t.roots u hsecure hhost hport)⟩

/-- The URL of all credentials on the site. -/
def Site.dataUrl (a : Site) : Url := a.url ["api".toList, "v1".toList, "data".toList]

/-- A query leaves scheme, host and port as they are. -/
theorem Url.withPairs_same (u : Url) (pairs : List (String × String)) :
    (u.withPairs pairs).secure = u.secure ∧ (u.withPairs pairs).host = u.host ∧
      (u.withPairs pairs).port = u.port := by
  unfold withPairs
  split
  · exact ⟨rfl, rfl, rfl⟩
  · split <;> exact ⟨rfl, rfl, rfl⟩

section

variable {t : Transport} {w : World} {a : Site} (h : t.Serves w a) {q : Request}
  (hpath : q.path = Client.dataPath)
include h hpath

/-- A request about credentials by name is for the URL of all credentials, with the query. -/
theorem Transport.Serves.url?_dataPath : t.url? q = some (a.dataUrl.withPairs q.query) := by
  have htext : Client.dataPath.toList = '/' :: "api/v1/data".toList := rfl
  have hmarks : ∀ c ∈ keptPath "api/v1/data".toList, c ≠ '?' ∧ c ≠ '#' := by
    have hkept : keptPath "api/v1/data".toList = "api/v1/data".toList := rfl
    rw [hkept]
    simp
  rw [url?, h.base, hpath, a.ofString?_append htext hmarks]
  rfl

/-- A request about credentials by name arrives if its URL is short enough. -/
theorem Transport.Serves.reaches_iff :
    t.Reaches w q ↔ (a.dataUrl.withPairs q.query).text.utf8ByteSize ≤ Url.longest := by
  obtain ⟨hsecure, hhost, hport⟩ := a.dataUrl.withPairs_same q.query
  rw [← h.opens_iff hsecure hhost hport, Reaches]
  simp only [destination_eq_ok_iff, h.url?_dataPath hpath, Option.some.injEq, exists_eq_left']

end

/-! ## A server at hand -/

/-- A site on this machine. -/
def loopbackSite : Site where
  text := "[::1]:8080".toList
  host := .ipv6 [0, 0, 0, 0, 0, 0, 0, 1]
  port := some 8080
  text_ne_nil := List.cons_ne_nil _ _
  plain := by simp [endsAuthority, isSlash, isTabOrBreak]
  reads := ⟨"[::1]".toList, "8080".toList, rfl, rfl, rfl⟩
  askable := rfl

/-- A world without files, in which a server answers on this machine. -/
def loopbackWorld : World :=
  { World.empty with
    passage := fun _ _ u =>
      if u.secure = false ∧ u.host = loopbackSite.host ∧ u.port = loopbackSite.port then .direct
      else .refused }

/-- The way to the server on this machine. -/
def loopback : Transport := ⟨"http://[::1]:8080", none, {}, []⟩

theorem loopbackSite_isOpen (o : Options) : loopbackSite.IsOpen loopbackWorld o := by
  intro roots u hsecure hhost hport
  exact if_pos ⟨hsecure, hhost, hport⟩

theorem loopback_serves : loopback.Serves loopbackWorld loopbackSite where
  base := rfl
  token := rfl
  isOpen := loopbackSite_isOpen {}

end Credentials.Http
