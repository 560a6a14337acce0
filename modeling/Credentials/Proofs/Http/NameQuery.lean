import Credentials.Proofs.Client.Conversation
import Credentials.Proofs.Command.Journal
import Credentials.Proofs.Http.Form
import Credentials.Proofs.Http.Site

/-!
# Names in queries

A request about a name carries it as the one pair of its query. The name is encoded as a form, so
nothing in it can end the pair or the query, and the server reads it back as it is, whatever it holds
and however many slashes end the base URL. A name may be of any length but a URL may not: the request
for a name that is too long is not sent. Main statement: `name_travels_intact`, for a site to which the
way is open.
-/

namespace Credentials.Http

/-! ## URLs for names -/

/-- The URL for a name on the site. -/
def Site.nameUrl (a : Site) (n : Name) : Url := a.dataUrl.withPairs [("name", n.text)]

/-- The target for a name is the path of all credentials and the encoded name. -/
theorem Site.target_nameUrl (a : Site) (n : Name) :
    (a.nameUrl n).target = "/api/v1/data?name=" ++ String.ofList (Form.encodeText n.text) := by
  have hpath : (a.nameUrl n).path = "/api/v1/data".toList := rfl
  have hquery : (a.nameUrl n).query = some (Form.encode [("name", n.text)]) := rfl
  refine String.toList_injective ?_
  rw [Url.target, hpath, hquery, Form.encode_name, String.toList_append]
  simp only [String.toList_ofList]
  rfl

/-- How long the URL for a name is. -/
theorem Site.utf8ByteSize_nameUrl (a : Site) (n : Name) :
    (a.nameUrl n).text.utf8ByteSize =
      a.dataUrl.origin.utf8ByteSize + 18 + (Form.encodeText n.text).length := by
  have horigin : (a.nameUrl n).origin = a.dataUrl.origin := rfl
  have hprefix : "/api/v1/data?name=".utf8ByteSize = 18 := by decide
  have hfragment : (String.ofList (Url.marked '#' (a.nameUrl n).fragment)).utf8ByteSize = 0 := rfl
  rw [Url.text, String.utf8ByteSize_append, String.utf8ByteSize_append, horigin, target_nameUrl,
    String.utf8ByteSize_append, hprefix, hfragment,
    Form.utf8ByteSize_ofList (Form.spelled_encodeText n.text).utf8Size]
  omega

/-! ## Requests about names -/

/-- The call is about a name, with requests of this method. -/
inductive IsAbout : Client.Call → Method → Name → Prop
  | get (n : Name) (expected : Option Kind) : IsAbout (.getByName n expected) .get n
  | delete (n : Name) : IsAbout (.deleteByName n) .delete n

/-- The request is about a name: the value of its one pair is spelled of harmless characters and
reads as the name. -/
structure Arrival.IsForName (x : Arrival) (m : Method) (n : Name) : Prop where
  method : x.method = m
  target : ∃ text, x.target = "/api/v1/data?name=" ++ String.ofList text ∧ Form.Spelled text ∧
    Form.decodeText? text = some n.text
  pair : ∃ query, x.target = "/api/v1/data?" ++ String.ofList query ∧
    Form.decode? query = some [("name", n.text)]

/-- A request for the URL of a name is one about the name. -/
theorem isForName_nameUrl (t : Transport) (a : Site) (m : Method) (n : Name) :
    (t.arrival (Client.nameRequest m n) (a.nameUrl n)).IsForName m n where
  method := rfl
  target := ⟨_, a.target_nameUrl n, Form.spelled_encodeText n.text,
    Form.decodeText?_encodeText n.text⟩
  pair := by
    refine ⟨Form.encode [("name", n.text)], (a.target_nameUrl n).trans ?_, Form.decode?_encode _⟩
    refine String.toList_injective ?_
    rw [Form.encode_name, String.toList_append, String.toList_append]
    simp only [String.toList_ofList]
    rfl

/-- The target says which name a request is about. -/
theorem Arrival.IsForName.name_eq {x y : Arrival} {m m' : Method} {n n' : Name}
    (hx : x.IsForName m n) (hy : y.IsForName m' n') (h : x.target = y.target) : n = n' := by
  obtain ⟨text, htext, -, hn⟩ := hx.target
  obtain ⟨text', htext', -, hn'⟩ := hy.target
  rw [htext, htext', String.append_right_inj, String.ofList_inj] at h
  rw [h, hn'] at hn
  exact Name.ext (Option.some.inj hn).symm

/-! ## Sending them -/

theorem unlogged_perform_of_isAbout {σ : Type} (send : Sender σ) {c : Client.Call} {m : Method}
    {n : Name} (h : IsAbout c m n) :
    (c.perform send).unlogged =
      (send (Client.nameRequest m n)).unlogged >>= fun x => Run.ofExcept (c.reading x) := by
  rw [Client.Call.unlogged_perform]
  cases h <;> rfl

/-- The requests that arrive in the course of a call. -/
def Transport.arrivalsOf (t : Transport) (w : World) (c : Client.Call) (replies : List Reply) :
    List Arrival :=
  Program.arrivals ((c.perform (t.send w)).run replies).events

/-- A request for a URL can be written down: the token can stand in a header, and the URL is not too
long. -/
structure Transport.Sends (t : Transport) (u : Url) : Prop where
  token : Transport.isAcceptedToken t.token = true
  short : u.text.utf8ByteSize ≤ Url.longest

section

variable {t : Transport} {w : World} {a : Site} (hbase : t.base = a.base)
  (hopen : a.IsOpen w t.options) (m : Method) (n : Name)
include hbase hopen

/-- On an open way, a request about a name gets somewhere if it can be written down. -/
theorem Transport.destination_nameRequest (h : t.Sends (a.nameUrl n)) :
    t.destination w (Client.nameRequest m n) = .ok (a.nameUrl n) := by
  have hserves : t.Serves w a := ⟨hbase, h.token, hopen⟩
  exact destination_eq_ok_iff.2
    ⟨hserves.url?_dataPath rfl, (hserves.opens_iff rfl rfl rfl).2 h.short⟩

theorem Transport.destination_nameRequest_error (h : ¬ t.Sends (a.nameUrl n)) :
    ∃ e, t.destination w (Client.nameRequest m n) = .error e := by
  cases hdestination : t.destination w (Client.nameRequest m n) with
  | error e => exact ⟨e, rfl⟩
  | ok u =>
    obtain ⟨hurl, hopens⟩ := destination_eq_ok_iff.1 hdestination
    have hserves : t.Serves w a := ⟨hbase, hopens.token, hopen⟩
    rw [hserves.url?_dataPath rfl] at hurl
    cases hurl
    exact absurd ⟨hopens.token, (hserves.opens_iff rfl rfl rfl).1 hopens⟩ h

end

section

variable {t : Transport} {w : World} {a : Site} (hbase : t.base = a.base)
  (hopen : a.IsOpen w t.options) {c : Client.Call} {m : Method} {n : Name}
  (h : IsAbout c m n) (replies : List Reply)
include hbase hopen h

/-- The first request that arrives is the one about the name. -/
theorem Transport.arrivalsOf_of_sends (hsends : t.Sends (a.nameUrl n)) :
    ∃ x later, t.arrivalsOf w c replies = x :: later ∧ x.IsForName m n ∧
      (sentElsewhere replies = 0 → later = []) := by
  have hcall := unlogged_perform_of_isAbout (t.send w) h
  obtain ⟨later, harrivals, hlater⟩ := arrivals_of_destination hcall
    (destination_nameRequest hbase hopen m n hsends) replies
  rw [firstArrival_of_direct (hopen t.roots _ rfl rfl rfl)] at harrivals
  exact ⟨_, later, harrivals, isForName_nameUrl t a m n, hlater⟩

/-- A request that cannot be written down does not arrive, and the call fails. -/
theorem Transport.arrivalsOf_of_not_sends (hsends : ¬ t.Sends (a.nameUrl n)) :
    t.arrivalsOf w c replies = [] ∧ ∃ e, ((c.perform (t.send w)).run replies).result = .error e := by
  obtain ⟨e, he⟩ := destination_nameRequest_error hbase hopen m n hsends
  have hcall := unlogged_perform_of_isAbout (t.send w) h
  exact ⟨arrivals_of_destination_error hcall he replies,
    e, result_of_destination_error hcall he replies⟩

theorem Transport.isForName_of_mem_head? {x : Arrival}
    (hx : x ∈ (t.arrivalsOf w c replies).head?) : x.IsForName m n := by
  by_cases hsends : t.Sends (a.nameUrl n)
  · obtain ⟨y, later, hy, hname, -⟩ := arrivalsOf_of_sends hbase hopen h replies hsends
    rw [hy] at hx
    cases hx
    exact hname
  · rw [(arrivalsOf_of_not_sends hbase hopen h replies hsends).1] at hx
    cases hx

end

/-! ## Base URLs with slashes -/

/-- The base URL of the site with slashes behind it. -/
def Site.slashedBase (a : Site) (k : Nat) : String :=
  a.base ++ String.ofList (List.replicate k '/')

/-- However many slashes end a base URL, they are trimmed. -/
theorem Site.trimSlashes_slashedBase (a : Site) (k : Nat) :
    Transport.trimSlashes (a.slashedBase k) = a.base := by
  obtain ⟨front, c, htext⟩ := (List.eq_nil_or_concat' a.text).resolve_left a.text_ne_nil
  have hc : (fun d : Char => d == '/') c = false := by
    have hslash := a.not_isSlash (c := c) (by simp [htext])
    simp only [Url.isSlash, Bool.or_eq_false_iff] at hslash
    exact hslash.1
  have hslashes : (List.replicate k '/').rdropWhile (· == '/') = [] :=
    List.rdropWhile_eq_nil_iff.2 fun d hd => by simp [List.eq_of_mem_replicate hd]
  have htrim (s : String) :
      (Transport.trimSlashes s).toList = s.toList.rdropWhile (· == '/') := by
    rw [Transport.trimSlashes, String.toList_ofList]
    rfl
  have hbase : a.base.toList = "http://".toList ++ front ++ [c] := by
    rw [base, String.toList_append, htext, List.append_assoc]
    simp only [String.toList_ofList]
  -- The authority ends in a character that is no slash, and there the trimming stops.
  refine String.toList_injective ?_
  rw [htrim, slashedBase, String.toList_append, String.toList_ofList, hbase, List.append_assoc,
    List.singleton_append, rdropWhile_append_cons (p := fun d => d == '/') hc, hslashes]

theorem Site.hasWebScheme_base (a : Site) : hasWebScheme a.base = true := by
  rw [hasWebScheme, base, String.toList_append, String.toList_ofList]
  simp

section

variable {σ : Type} {w : World} {a : Site} {k : Nat} {o : Options} {s : σ}

/-- A transport to the site knows its base URL and the options. -/
theorem Transport.of_configure {t : Transport}
    (h : ((configure w (a.slashedBase k) o).run s).result = .ok t) :
    t.base = a.base ∧ t.options = o := by
  obtain ⟨-, roots, rfl⟩ := lines_configure h
  exact ⟨a.trimSlashes_slashedBase k, rfl⟩

/-- Every file of certificates can be read and used. -/
def Transport.IsTrusting (w : World) (o : Options) : Prop :=
  ∀ path ∈ o.certificateFiles.getD [], ∃ c, (w.look path).content = .ok c ∧ isTrustable w c = true

/-- Files of certificates that are in order are read and trusted. -/
theorem Transport.exists_readCertificates {paths : List String}
    (h : ∀ path ∈ paths, ∃ c, (w.look path).content = .ok c ∧ isTrustable w c = true) :
    ∃ roots, ((readCertificates w paths).run s).result = .ok roots ∧
      roots.all (isTrustable w) = true := by
  induction paths with
  | nil => exact ⟨[], rfl, rfl⟩
  | cons path paths ih =>
    obtain ⟨c, hc, htrusted⟩ := h path List.mem_cons_self
    obtain ⟨roots, hroots, hall⟩ := ih fun path' hpath => h path' (List.mem_cons_of_mem _ hpath)
    refine ⟨c :: roots, ?_, ?_⟩
    · have hcontent : ((w.readContent path).run s).result = .ok (.ok c) := congrArg Except.ok hc
      rw [readCertificates, (w.isLocal_readContent path).result_bind hcontent]
      rw [Run.result_log_bind, (isLocal_readCertificates w paths).result_bind hroots]
      rfl
    · rw [List.all_cons, htrusted, hall]
      rfl

/-- A transport to the site is made if the files of certificates are in order. -/
theorem Transport.exists_configure_slashedBase (h : IsTrusting w o) :
    ∃ t, ((configure w (a.slashedBase k) o).run s).result = .ok t := by
  obtain ⟨roots, hroots, hall⟩ := exists_readCertificates (s := s) h
  unfold configure
  simp only [a.trimSlashes_slashedBase, if_pos a.hasWebScheme_base]
  rw [(isLocal_readCertificates w _).result_bind hroots, if_pos hall]
  exact ⟨_, rfl⟩

end

/-- A call about a name has a request arrive, whose query is one pair with that name, whatever the name
holds and however many slashes end the base URL, as long as the token can stand in a header and the URL
is not too long; else nothing arrives and the call fails. Another request arrives only when the client is
sent elsewhere. The way to the site is taken to be open. -/
theorem name_travels_intact {w : World} {a : Site} {o : Options} (hopen : a.IsOpen w o) (k : Nat)
    {σ : Type} (s : σ) :
    (Transport.IsTrusting w o →
      ∃ t, ((Transport.configure w (a.slashedBase k) o).run s).result = .ok t) ∧
    ∀ t, ((Transport.configure w (a.slashedBase k) o).run s).result = .ok t → ∀ token,
      (∀ c m n, IsAbout c m n → ∀ replies,
        ({ t with token }.Sends (a.nameUrl n) →
          ∃ x later, { t with token }.arrivalsOf w c replies = x :: later ∧ x.IsForName m n ∧
            (sentElsewhere replies = 0 → later = [])) ∧
        (¬ { t with token }.Sends (a.nameUrl n) →
          { t with token }.arrivalsOf w c replies = [] ∧
            ∃ e, ((c.perform ({ t with token }.send w)).run replies).result = .error e)) ∧
      ∀ c m n c' m' n' replies replies', IsAbout c m n → IsAbout c' m' n' →
        ∀ x ∈ ({ t with token }.arrivalsOf w c replies).head?,
          ∀ y ∈ ({ t with token }.arrivalsOf w c' replies').head?, x.target = y.target → n = n' := by
  refine ⟨fun ho => Transport.exists_configure_slashedBase ho, fun t ht token => ?_⟩
  obtain ⟨hbase, hoptions⟩ := Transport.of_configure ht
  have hbase : ({ t with token } : Transport).base = a.base := hbase
  have hopen : a.IsOpen w ({ t with token } : Transport).options := by
    rw [← hoptions] at hopen
    exact hopen
  refine ⟨fun c m n h replies => ⟨?_, ?_⟩, ?_⟩
  · exact Transport.arrivalsOf_of_sends hbase hopen h replies
  · exact Transport.arrivalsOf_of_not_sends hbase hopen h replies
  · intro c m n c' m' n' replies replies' h h' x hx y hy htarget
    have hname := Transport.isForName_of_mem_head? hbase hopen h replies hx
    have hname' := Transport.isForName_of_mem_head? hbase hopen h' replies' hy
    exact hname.name_eq hname' htarget

/-- A name with much in it that separates something in a URL. -/
def hostileName : Name := ⟨"/a&name=b#c +%2F?\n/ä/", 'a', _, rfl, by decide⟩

theorem result_configure_loopback (k : Nat) :
    ((Transport.configure loopbackWorld (loopbackSite.slashedBase k) {}).run ()).result =
      .ok loopback := by
  unfold Transport.configure
  simp only [loopbackSite.trimSlashes_slashedBase, if_pos loopbackSite.hasWebScheme_base]
  rfl

/-- The world of `loopbackWorld` with a certificate in every file. -/
def certifiedWorld : World :=
  { loopbackWorld with
    look := fun _ => .file (.text "-----BEGIN CERTIFICATE-----")
    isCertificate := fun _ => true }

/-- A client can be made that trusts a certificate, and a request about a name arrives unless its token
cannot stand in a header. -/
theorem hostileName_travels_intact :
    (∃ t, ((Transport.configure certifiedWorld (loopbackSite.slashedBase 2)
        { certificateFiles := some ["/ca.pem"] }).run ()).result = .ok t) ∧
      (∃ x later, loopback.arrivalsOf loopbackWorld (.deleteByName hostileName) [] = x :: later ∧
        x.IsForName .delete hostileName) ∧
      { loopback with token := some "\n" }.arrivalsOf loopbackWorld (.deleteByName hostileName) [] =
        [] := by
  obtain ⟨hmade, -⟩ := name_travels_intact (w := certifiedWorld) (a := loopbackSite)
    (o := { certificateFiles := some ["/ca.pem"] }) (fun _ _ h h' h'' => if_pos ⟨h, h', h''⟩) 2 ()
  obtain ⟨-, hsent⟩ := name_travels_intact (loopbackSite_isOpen {}) 2 ()
  have htrusting : Transport.IsTrusting certifiedWorld
      { certificateFiles := some ["/ca.pem"] } := by
    intro path hpath
    exact ⟨_, rfl, Bool.or_true _⟩
  have hsends : loopback.Sends (loopbackSite.nameUrl hostileName) := ⟨rfl, by decide +kernel⟩
  have hsent (token : Option String) := (hsent loopback (result_configure_loopback 2) token).1
    _ _ _ (.delete hostileName) []
  obtain ⟨x, later, harrivals, hname, -⟩ := (hsent none).1 hsends
  refine ⟨hmade htrusting, ⟨x, later, harrivals, hname⟩, ((hsent (some "\n")).2 ?_).1⟩
  exact fun h => absurd h.token (by decide)

/-- A name of 65536 characters. -/
def longName : Name :=
  ⟨String.ofList ('/' :: 'a' :: List.replicate 65534 'a'), 'a', _, String.toList_ofList, by decide⟩

/-- Neither a name that is too long arrives, nor any name over a transport whose token cannot stand
in a header. -/
theorem longName_does_not_travel :
    ((Transport.configure loopbackWorld (loopbackSite.slashedBase 0) {}).run ()).result =
        .ok loopback ∧
      (∀ c m, IsAbout c m longName → loopback.arrivalsOf loopbackWorld c [] = []) ∧
      ∀ c m, IsAbout c m hostileName →
        { loopback with token := some "\n" }.arrivalsOf loopbackWorld c [] = [] := by
  have hletters (k : Nat) :
      (String.ofList ('/' :: 'a' :: List.replicate k 'a')).toList.length = k + 2 := by
    simp
  have hlong : longName.text.toList.length = 65536 := hletters 65534
  have hlength := Form.length_le_length_encodeText longName.text
  have hnothing {t : Transport} (hbase : t.base = loopbackSite.base) {c : Client.Call} {m : Method}
      {n : Name} (h : IsAbout c m n) (hsends : ¬ t.Sends (loopbackSite.nameUrl n)) :
      t.arrivalsOf loopbackWorld c [] = [] :=
    (Transport.arrivalsOf_of_not_sends hbase (loopbackSite_isOpen _) h [] hsends).1
  refine ⟨result_configure_loopback 0, ?_, ?_⟩
  · intro c m h
    refine hnothing rfl h ?_
    rintro ⟨-, hshort⟩
    rw [Site.utf8ByteSize_nameUrl, Url.longest] at hshort
    omega
  · intro c m h
    exact hnothing rfl h fun hsends => absurd hsends.token (by decide)

end Credentials.Http
