import Credentials.Proofs.Config.Load
import Credentials.Proofs.Http.Site

/-!
# The URL of the server

The URL of a configuration is looked at twice: when the configuration is loaded, apart from white
space at its ends, and when a transport is made, without the slashes at its end. Both times it has to
begin with the scheme of a web server. The first check passes everything that the second does, and in
addition URLs with white space in front of the scheme and URLs that are nothing but a scheme
(`url_checks_agree_iff`).
-/

namespace Credentials

open Http (Reply Transport)

/-! ## Prefixes of trimmed texts -/

theorem isPrefix_dropWhile_iff {p : Char → Bool} {c : Char} (hc : p c = false) {t s : List Char} :
    c :: t <+: s.dropWhile p ↔
      ∃ front rest, (∀ b ∈ front, p b = true) ∧ s = front ++ (c :: t ++ rest) := by
  constructor
  · rintro ⟨rest, hrest⟩
    refine ⟨s.takeWhile p, rest, fun b hb => List.mem_takeWhile_imp hb, ?_⟩
    rw [hrest, List.takeWhile_append_dropWhile]
  · rintro ⟨front, rest, hfront, rfl⟩
    rw [List.dropWhile_append_of_pos hfront, List.cons_append,
      List.dropWhile_cons_of_neg (by simp [hc])]
    exact List.prefix_append (c :: t) rest

/-- A beginning that ends in what is kept is not touched. -/
theorem isPrefix_rdropWhile_iff {p : Char → Bool} {c : Char} (hc : p c = false) {t s : List Char} :
    t ++ [c] <+: s.rdropWhile p ↔ t ++ [c] <+: s := by
  constructor
  · intro h
    exact h.trans (List.rdropWhile_prefix p s)
  · rintro ⟨rest, rfl⟩
    rw [List.append_assoc, List.singleton_append, Http.rdropWhile_append_cons hc]
    exact ⟨rest.rdropWhile p, by simp⟩

/-- A beginning that ends in what is dropped stays if something behind it does. -/
theorem isPrefix_rdropWhile_iff_exists {p : Char → Bool} {c : Char} (hc : p c = true)
    {t s : List Char} :
    t ++ [c] <+: s.rdropWhile p ↔ ∃ rest, s = t ++ [c] ++ rest ∧ ∃ d ∈ rest, p d = false := by
  constructor
  · rintro ⟨kept, hkept⟩
    obtain ⟨dropped, hs⟩ := List.rdropWhile_prefix p s
    refine ⟨kept ++ dropped, by rw [← List.append_assoc, hkept, hs], ?_⟩
    have hne : s.rdropWhile p ≠ [] := by simp [← hkept]
    have hlast := List.rdropWhile_last_not p s hne
    cases hnil : kept.eq_nil_or_concat with
    | inl h =>
      subst h
      simp [← hkept, hc] at hlast
    | inr h =>
      obtain ⟨front, d, rfl⟩ := h
      simp only [← hkept] at hlast
      exact ⟨d, by simp, by simpa using hlast⟩
  · rintro ⟨rest, rfl, d, hd, hkeep⟩
    obtain ⟨xs, ys, rfl⟩ := List.append_of_mem hd
    rw [← List.append_assoc, Http.rdropWhile_append_cons hkeep, List.append_assoc]
    exact List.prefix_append _ _

/-! ## The two checks -/

namespace Http

/-- How URLs of web servers begin. -/
def webSchemes : List (List Char) := ["https://".toList, "http://".toList]

/-- A URL is one of a web server if it begins with one of two schemes. -/
theorem hasWebScheme_iff {s : String} :
    hasWebScheme s = true ↔ ∃ scheme ∈ webSchemes, scheme <+: s.toList := by
  simp [hasWebScheme, webSchemes]

/-- A scheme begins with a letter and ends with a slash. -/
theorem exists_of_mem_webSchemes {scheme : List Char} (h : scheme ∈ webSchemes) :
    (∃ t, scheme = 'h' :: t) ∧ ∃ t, scheme = t ++ ['/'] := by
  rcases List.mem_pair.1 h with rfl | rfl
  · exact ⟨⟨"ttps://".toList, rfl⟩, "https:/".toList, rfl⟩
  · exact ⟨⟨"ttp://".toList, rfl⟩, "http:/".toList, rfl⟩

end Http

open Http (webSchemes)

/-- The check of the configuration overlooks white space in front of the scheme. -/
theorem Config.fault?_eq_none_iff {c : Config} :
    c.fault? = none ↔ ∃ front, ∃ scheme ∈ webSchemes, ∃ rest,
      (∀ b ∈ front, Text.isBlank b = true) ∧ c.url.toList = front ++ (scheme ++ rest) := by
  have hscheme (scheme : List Char) (h : scheme ∈ webSchemes) :
      scheme <+: (Text.trim c.url).toList ↔ ∃ front rest,
        (∀ b ∈ front, Text.isBlank b = true) ∧ c.url.toList = front ++ (scheme ++ rest) := by
    -- Trimming keeps a scheme whole, since neither its first nor its last character is blank.
    obtain ⟨⟨t, ht⟩, u, hu⟩ := Http.exists_of_mem_webSchemes h
    have hslash : Text.isBlank '/' = false := rfl
    have hletter : Text.isBlank 'h' = false := rfl
    have htrim : (Text.trim c.url).toList =
        (c.url.toList.dropWhile Text.isBlank).rdropWhile Text.isBlank := by
      rw [Text.trim, String.toList_ofList]
      rfl
    rw [htrim, hu, isPrefix_rdropWhile_iff hslash, ← hu, ht, isPrefix_dropWhile_iff hletter]
  have hnone : c.fault? = none ↔ Http.hasWebScheme (Text.trim c.url) = true := by
    unfold fault?
    by_cases hempty : Text.trim c.url = ""
    · simp only [hempty]
      exact iff_of_false nofun (by decide)
    · simp [hempty]
  rw [hnone, Http.hasWebScheme_iff]
  constructor
  · rintro ⟨scheme, hmem, hprefix⟩
    obtain ⟨front, rest, hfront, hurl⟩ := (hscheme scheme hmem).1 hprefix
    exact ⟨front, scheme, hmem, rest, hfront, hurl⟩
  · rintro ⟨front, scheme, hmem, rest, hfront, hurl⟩
    exact ⟨scheme, hmem, (hscheme scheme hmem).2 ⟨front, rest, hfront, hurl⟩⟩

namespace Http.Transport

variable {σ : Type}

/-- No transport is made because the URL is not one of a web server. -/
def RefusesUrl (w : World) (base : String) (o : Options) (s : σ) : Prop :=
  ∃ u, ((configure w base o).run s).result = .error (.transport (.invalidUrl u))

/-- Reading certificates fails for a file that cannot be read, and never for a URL. -/
theorem certificate_of_readCertificates {w : World} {paths : List String} {s : σ} {e : Error}
    (h : ((readCertificates w paths).run s).result = .error e) :
    ∃ path reason, e = .transport (.certificate path reason) := by
  induction paths generalizing s with
  | nil => cases h
  | cons path paths ih =>
    rw [readCertificates] at h
    rcases Run.result_bind_eq_error_iff.1 h with h | ⟨content, -, h⟩
    · cases h
    · cases content with
      | error cause =>
        cases h
        exact ⟨path, cause.message, rfl⟩
      | ok c =>
        rcases Run.result_bind_eq_error_iff.1 h with h | ⟨-, -, h⟩
        · cases h
        · rcases Run.result_bind_eq_error_iff.1 h with h | ⟨others, -, h⟩
          · exact ih h
          · cases h

/-- A transport is refused for its URL before anything else is looked at. -/
theorem refusesUrl_iff {w : World} {base : String} {o : Options} {s : σ} :
    RefusesUrl w base o s ↔ hasWebScheme (trimSlashes base) = false := by
  constructor
  · rintro ⟨u, hu⟩
    by_contra hscheme
    unfold configure at hu
    simp only [Bool.not_eq_false] at hscheme
    rw [if_pos hscheme] at hu
    rcases Run.result_bind_eq_error_iff.1 hu with h | ⟨roots, -, h⟩
    · obtain ⟨path, reason, he⟩ := certificate_of_readCertificates h
      cases he
    · split at h <;> cases h
  · intro hscheme
    refine ⟨trimSlashes base, ?_⟩
    rw [configure, if_neg (by simp [hscheme])]
    rfl

/-- The transport wants a scheme with more behind it than slashes. -/
theorem not_refusesUrl_iff {w : World} {base : String} {o : Options} {s : σ} :
    ¬ RefusesUrl w base o s ↔
      ∃ scheme ∈ webSchemes, ∃ rest, base.toList = scheme ++ rest ∧ ∃ c ∈ rest, c ≠ '/' := by
  have htrim : (trimSlashes base).toList = base.toList.rdropWhile (· == '/') := by
    rw [trimSlashes, String.toList_ofList]
    rfl
  rw [refusesUrl_iff, Bool.not_eq_false, hasWebScheme_iff, htrim]
  refine exists_congr fun scheme => and_congr_right fun hmem => ?_
  -- The scheme ends in a slash itself, so it is dropped with the slashes behind it.
  obtain ⟨-, t, rfl⟩ := exists_of_mem_webSchemes hmem
  have hslash : (fun c : Char => c == '/') '/' = true := rfl
  rw [isPrefix_rdropWhile_iff_exists (p := fun c => c == '/') hslash]
  simp

end Http.Transport

/-! ## Where the checks differ -/

/-- White space stands in front of the scheme. -/
def IsIndented (url : String) : Prop :=
  ∃ front, ∃ scheme ∈ webSchemes, ∃ rest, front ≠ [] ∧ (∀ b ∈ front, Text.isBlank b = true) ∧
    url.toList = front ++ (scheme ++ rest)

/-- Nothing but slashes stands behind the scheme. -/
def IsBare (url : String) : Prop :=
  ∃ scheme ∈ webSchemes, ∃ n, url.toList = scheme ++ List.replicate n '/'

/-- No URL begins with both schemes. -/
theorem Http.eq_of_webSchemes {scheme scheme' rest rest' : List Char} (h : scheme ∈ webSchemes)
    (h' : scheme' ∈ webSchemes) (heq : scheme ++ rest = scheme' ++ rest') : scheme = scheme' := by
  rcases List.mem_pair.1 h with rfl | rfl
  · rcases List.mem_pair.1 h' with rfl | rfl
    · rfl
    · simp at heq
  · rcases List.mem_pair.1 h' with rfl | rfl
    · simp at heq
    · rfl

/-- A URL that begins with a scheme has no white space in front. -/
theorem eq_nil_of_append_eq {front scheme rest s : List Char}
    (hfront : ∀ b ∈ front, Text.isBlank b = true) (h : scheme ∈ webSchemes)
    (heq : front ++ rest = scheme ++ s) : front = [] := by
  obtain ⟨⟨t, rfl⟩, -⟩ := Http.exists_of_mem_webSchemes h
  cases front with
  | nil => rfl
  | cons b front =>
    obtain ⟨rfl, -⟩ := List.cons.inj heq
    exact absurd (hfront 'h' List.mem_cons_self) (by decide)

section

variable {σ : Type} {w : World} {o : Options} {s : σ} {c : Config}

/-- What the transport takes, the configuration takes too. -/
theorem Config.fault?_of_not_refusesUrl (h : ¬ Transport.RefusesUrl w c.url o s) :
    c.fault? = none := by
  obtain ⟨scheme, hmem, rest, hurl, -⟩ := Transport.not_refusesUrl_iff.1 h
  exact Config.fault?_eq_none_iff.2 ⟨[], scheme, hmem, rest, by simp, hurl⟩

/-- Of what the configuration takes the transport refuses what is indented or bare. -/
theorem refusesUrl_iff_of_fault? (h : c.fault? = none) :
    Transport.RefusesUrl w c.url o s ↔ IsIndented c.url ∨ IsBare c.url := by
  constructor
  · intro hrefuses
    obtain ⟨front, scheme, hmem, rest, hfront, hurl⟩ := Config.fault?_eq_none_iff.1 h
    by_cases hnil : front = []
    · refine .inr ⟨scheme, hmem, rest.length, ?_⟩
      subst hnil
      by_contra hbare
      refine Transport.not_refusesUrl_iff.2 ⟨scheme, hmem, rest, hurl, ?_⟩ hrefuses
      by_contra hall
      simp only [not_exists, not_and, not_not] at hall
      rw [← List.eq_replicate_of_mem hall] at hbare
      exact hbare hurl
    · exact .inl ⟨front, scheme, hmem, rest, hnil, hfront, hurl⟩
  · intro hdiffer
    by_contra hrefuses
    obtain ⟨scheme, hmem, rest, hurl, d, hd, hne⟩ := Transport.not_refusesUrl_iff.1 hrefuses
    rcases hdiffer with ⟨front, scheme', -, rest', hfront_ne, hfront, hurl'⟩ |
      ⟨scheme', hmem', n, hurl'⟩
    · exact hfront_ne (eq_nil_of_append_eq hfront hmem (hurl'.symm.trans hurl))
    · rw [hurl] at hurl'
      obtain rfl := Http.eq_of_webSchemes hmem hmem' hurl'
      rw [List.append_cancel_left hurl'] at hd
      exact hne (List.eq_of_mem_replicate hd)

/-- The configuration takes URLs that are indented or bare. -/
theorem Config.fault?_of_isIndented_or_isBare (h : IsIndented c.url ∨ IsBare c.url) :
    c.fault? = none := by
  rw [Config.fault?_eq_none_iff]
  rcases h with ⟨front, scheme, hmem, rest, -, hfront, hurl⟩ | ⟨scheme, hmem, n, hurl⟩
  · exact ⟨front, scheme, hmem, rest, hfront, hurl⟩
  · exact ⟨[], scheme, hmem, List.replicate n '/', by simp, hurl⟩

/-- The check looks at nothing but the URL. -/
theorem Config.forall_fault?_iff {url : String} :
    (∀ c : Config, c.url = url → c.fault? = none) ↔ ({ url } : Config).fault? = none := by
  constructor
  · intro h
    exact h { url } rfl
  · rintro h c rfl
    rw [Config.fault?_eq_none_iff] at h ⊢
    exact h

end

/-- A command fails for its URL behind a loaded configuration exactly if the transport refuses it. -/
theorem CommandLine.result_connect_eq_invalidUrl_iff {w : World} {explicit : Option String}
    {replies : List Reply} {c : Config} (h : ((Config.load w explicit).run replies).result = .ok c) :
    (∃ u, ((connect w explicit).run replies).result = .error (.transport (.invalidUrl u))) ↔
      Transport.RefusesUrl w c.url c.options replies := by
  refine exists_congr fun u => ?_
  rw [connect, (Config.isLocal_load w explicit).result_bind h]
  constructor
  · intro hconnect
    rcases Run.result_bind_eq_error_iff.1 hconnect with hconfigure | ⟨t, -, hpure⟩
    · exact hconfigure
    · simp at hpure
  · intro hconfigure
    exact Run.result_bind_eq_error_iff.2 (.inl hconfigure)

/-- The two checks agree on a URL unless it is indented or bare. What the transport takes the
configuration takes too, so in these cases the configuration is loaded but no transport is made. -/
theorem url_checks_agree_iff {σ : Type} (w : World) (o : Options) (s : σ) (url : String) :
    (((∀ c : Config, c.url = url → c.fault? = none) ↔ ¬ Transport.RefusesUrl w url o s) ↔
        ¬ (IsIndented url ∨ IsBare url)) ∧
      (¬ Transport.RefusesUrl w url o s → ∀ c : Config, c.url = url → c.fault? = none) ∧
      ∀ explicit replies c, ((Config.load w explicit).run replies).result = .ok c →
        ((∃ u, ((CommandLine.connect w explicit).run replies).result =
            .error (.transport (.invalidUrl u))) ↔ IsIndented c.url ∨ IsBare c.url) := by
  rw [Config.forall_fault?_iff]
  refine ⟨?_, ?_, ?_⟩
  · by_cases hfault : ({ url } : Config).fault? = none
    · rw [← refusesUrl_iff_of_fault? (c := { url }) hfault]
      exact iff_true_left hfault
    · have hrefuses : Transport.RefusesUrl w url o s := by
        by_contra hnot
        exact hfault (Config.fault?_of_not_refusesUrl (c := { url }) hnot)
      have hneither : ¬ (IsIndented url ∨ IsBare url) := by
        intro h
        exact hfault (Config.fault?_of_isIndented_or_isBare (c := { url }) h)
      exact iff_of_true (iff_of_false hfault (not_not.2 hrefuses)) hneither
  · intro hnot
    exact Config.fault?_of_not_refusesUrl (c := { url }) hnot
  · intro explicit replies c hload
    obtain ⟨-, -, -, hfault⟩ := Config.result_load_eq_ok_iff.1 hload
    rw [CommandLine.result_connect_eq_invalidUrl_iff hload]
    exact refusesUrl_iff_of_fault? hfault

/-- The world of `loopbackWorld` in which the environment says where the server is. -/
def directedWorld (url : String) : World :=
  { Http.loopbackWorld with
    environment := fun name => if name = Config.urlVariable then some url else none }

theorem isIndented_loopback : IsIndented " http://[::1]:8080" :=
  ⟨[' '], "http://".toList, by simp [webSchemes], "[::1]:8080".toList, by simp,
    List.forall_mem_singleton.2 (by decide), rfl⟩

theorem isBare_scheme : IsBare "https://" := ⟨"https://".toList, by simp [webSchemes], 0, rfl⟩

/-- A URL with a blank in front is loaded, and then no transport is made of it. -/
theorem indentedUrl_loaded_in_vain :
    ((Config.load (directedWorld " http://[::1]:8080") none).run ([] : List Reply)).result =
        .ok { url := " http://[::1]:8080" } ∧
      ∃ u, ((CommandLine.connect (directedWorld " http://[::1]:8080") none).run []).result =
        .error (.transport (.invalidUrl u)) := by
  have hload : ((Config.load (directedWorld " http://[::1]:8080") none).run
      ([] : List Reply)).result = .ok { url := " http://[::1]:8080" } :=
    Config.result_load_eq_ok_iff.2
      ⟨{}, rfl, rfl, Config.fault?_of_isIndented_or_isBare (.inl isIndented_loopback)⟩
  have hchecks := url_checks_agree_iff (directedWorld " http://[::1]:8080") {} () "http://[::1]:8080"
  exact ⟨hload, (hchecks.2.2 none [] _ hload).2 (.inl isIndented_loopback)⟩

/-- In the one case white space in front makes the difference, in the other the slashes of the
scheme itself. -/
theorem url_checks_disagree :
    ¬ ((∀ c : Config, c.url = " http://[::1]:8080" → c.fault? = none) ↔
        ¬ Transport.RefusesUrl Http.loopbackWorld " http://[::1]:8080" {} ()) ∧
      ¬ ((∀ c : Config, c.url = "https://" → c.fault? = none) ↔
        ¬ Transport.RefusesUrl Http.loopbackWorld "https://" {} ()) := by
  have hindented : ({ url := " http://[::1]:8080" } : Config).fault? = none :=
    Config.fault?_of_isIndented_or_isBare (.inl isIndented_loopback)
  have hbare : ({ url := "https://" } : Config).fault? = none :=
    Config.fault?_of_isIndented_or_isBare (.inr isBare_scheme)
  rw [Config.forall_fault?_iff, Config.forall_fault?_iff]
  constructor
  · intro hagree
    exact hagree.1 hindented (Transport.refusesUrl_iff.2 (by decide))
  · intro hagree
    exact hagree.1 hbare (Transport.refusesUrl_iff.2 (by decide))

end Credentials
