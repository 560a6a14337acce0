import Credentials.Proofs.Command.Arguments
import Credentials.Proofs.Document.Text
import Credentials.Proofs.Http.Site
import Credentials.Proofs.Json.Depth

/-!
# Stored credentials come back

A response is read as JSON if it can be, and kept as a string if not. The document of a stored
credential nests one deeper than its value and the document of a list of versions three deeper, while
a text may nest no deeper around a value than on its own; so a JSON credential that the command line
takes may be stored and yet come back as a string, which is no credential. Main statement:
`accepted_object_comes_back`, with the depths at which this happens.
-/

namespace Credentials

open Http (Reply Transport loopback loopbackSite loopbackWorld loopback_serves)

/-! ## What the command line accepts -/

/-- A JSON credential that is made from arguments was read from a text. -/
theorem Fields.exists_read_of_makeValue {σ : Type} {w : World} {fields : Fields} {s : σ}
    {o : Json.Object} (h : ((fields.makeValue w .json).run s).result = .ok (.json o)) :
    ∃ text, Json.read text = .ok (.object o) := by
  rw [run_makeValue] at h
  obtain ⟨texts, -, h⟩ := bind_eq_ok_iff.1 h
  obtain ⟨p, hp, hvalue⟩ := map_eq_ok_iff.1 h
  cases hvalue
  exact ⟨_, jsonObject_eq_ok_iff.1 hp⟩

/-- The compact text of an object is a JSON credential to the command line. -/
theorem Fields.makeValue_compact {σ : Type} {w : World} {s : σ} {o : Json.Object}
    (hfloat : (Json.object o).IsFloatFree) (hdepth : (Json.object o).depth ≤ Json.maxDepth) :
    ((({ value := some (Json.object o).compact } : Fields).makeValue w .json).run s).result =
      .ok (.json o) := by
  have hargument : (argumentText w (Json.object o).compact : Run σ String) =
      pure (Json.object o).compact := by
    rw [argumentText, Json.toList_compact_object]
    rfl
  have hobject : jsonObject (Json.object o).compact = .ok o := by
    rw [jsonObject, Json.read_compact hfloat hdepth]
    simp only [Json.object?_object]
  simp only [makeValue, text?, hargument, pure_bind, Option.getD_some, hobject]
  rfl

/-! ## Documents as responses -/

namespace Http.Transport

theorem isAllBlank_compact (o : Json.Object) :
    Text.isAllBlank (Json.object o).compact = false := by
  rw [Text.isAllBlank, Json.toList_compact_object, List.all_cons]
  rfl

/-- An object comes back as itself if a text may nest that deep, and else as a string. -/
theorem bodyOf_compact {o : Json.Object} (h : (Json.object o).IsFloatFree) :
    bodyOf (Json.object o).compact =
      some (if (Json.object o).depth ≤ Json.maxDepth then .object o
        else .string (Json.object o).compact) := by
  rw [bodyOf, isAllBlank_compact]
  by_cases hdepth : (Json.object o).depth ≤ Json.maxDepth
  · rw [Json.read_compact h hdepth, if_pos hdepth]
    rfl
  · obtain ⟨e, he, -⟩ := Json.read_compact_of_lt_depth h (Nat.lt_of_not_le hdepth)
    rw [he, if_neg hdepth]
    rfl

/-- The reply that brings a document with a status of success. -/
def document (j : Json) : Reply := .answer { status := 200, body := .text j.compact }

/-- A call reads a document in the answer as it is, or as a string if it is too deep. -/
theorem result_document {α : Type} {t : Transport} {w : World} {q : Request}
    {p : Run (List Reply) α} {read : Json → Except Error α}
    (hp : p.unlogged = (t.send w q).unlogged >>= fun r =>
      Run.ofExcept (Client.accepted r >>= read))
    (hreaches : t.Reaches w q) {o : Json.Object} (hfloat : (Json.object o).IsFloatFree)
    (rest : List Reply) :
    (p.run (document (.object o) :: rest)).result =
      read (if (Json.object o).depth ≤ Json.maxDepth then .object o
        else .string (Json.object o).compact) := by
  obtain ⟨u, hu⟩ := hreaches
  have hstays : (document (.object o)).redirect? = none := rfl
  have hinTime : (document (.object o)).inTime u t.patience =
      .ok { status := 200, body := .text (Json.object o).compact } :=
    inTime_eq_ok_iff.2 ⟨rfl, Nat.zero_le _⟩
  have hresponse : responseOf t u (document (.object o)) =
      .ok ⟨200, bodyOf (Json.object o).compact⟩ := by
    rw [responseOf, outcomeOf, hinTime]
    rfl
  rw [result_of_destination hp hu hstays, hresponse, bodyOf_compact hfloat]
  rfl

end Http.Transport

open Http.Transport

/-! ## Stored credentials -/

/-- A string is no document of a credential. -/
theorem Details.ofJson_string (expected : Option Kind) (s : String) :
    Details.ofJson expected (.string s) = .error (.malformed (.notObject .credential)) := rfl

theorem Versions.ofJson_string (expected : Option Kind) (s : String) :
    Versions.ofJson expected (.string s) = .error (.malformed (.notObject .credentialList)) := rfl

section

variable {w : World} {t : Transport} {d : Details} (hfloat : d.value.IsFloatFree)
  (hyears : d.FourDigitYears)
include hfloat hyears

/-- The answer to a request that stores a credential is read unless it is too deep. -/
theorem result_write_document {r : Request} (hkind : r.kind = d.kind)
    (hreaches : t.Reaches w (Client.storeRequest r.toJson)) (rest : List Reply) :
    ((Client.write (t.send w) r).run (document d.toJson :: rest)).result =
      if d.value.NestsWithin 126 then .ok d
      else .error (.malformed (.notObject .credential)) := by
  have hdepth : d.toJson.depth ≤ Json.maxDepth ↔ d.value.NestsWithin 126 :=
    Details.depth_toJson_le_iff (by decide)
  have hdocument := Details.isFloatFree_toJson hfloat
  have hread : Details.ofJson (some r.kind) d.toJson = .ok d :=
    Details.ofJson_toJson (fun k hk => (Option.some.inj hk).symm.trans hkind) hyears
  obtain ⟨o, ho, -⟩ := d.exists_toJson
  rw [ho] at hdepth hdocument hread ⊢
  rw [result_document (Client.unlogged_write _ r) hreaches hdocument]
  by_cases hfits : d.value.NestsWithin 126
  · rw [if_pos (hdepth.2 hfits), if_pos hfits, hread]
  · rw [if_neg (mt hdepth.1 hfits), if_neg hfits, Details.ofJson_string]

/-- The answer to a request for all versions is read unless it is too deep. -/
theorem result_getByName_document {name : Name} {expected : Option Kind}
    (hkind : d.IsOfKind expected) (hreaches : t.Reaches w (Client.nameRequest .get name))
    (rest : List Reply) :
    ((Client.getByName (t.send w) name expected).run
        (document (Versions.mk [d]).toJson :: rest)).result =
      if d.value.NestsWithin 124 then .ok ⟨[d]⟩
      else .error (.malformed (.notObject .credentialList)) := by
  have hdepth : (Versions.mk [d]).toJson.depth ≤ Json.maxDepth ↔ d.value.NestsWithin 124 := by
    rw [Json.maxDepth, Versions.depth_toJson_le_iff (by decide), List.forall_mem_singleton]
  have hdocument : (Versions.mk [d]).toJson.IsFloatFree :=
    Versions.isFloatFree_toJson (List.forall_mem_singleton.2 hfloat)
  have hread : Versions.ofJson expected (Versions.mk [d]).toJson = .ok ⟨[d]⟩ :=
    Versions.ofJson_toJson_eq_ok_iff.2 ⟨rfl, List.forall_mem_singleton.2 ⟨hkind, hyears⟩⟩
  obtain ⟨o, ho⟩ : ∃ o, (Versions.mk [d]).toJson = .object o := ⟨_, rfl⟩
  rw [ho] at hdepth hdocument hread ⊢
  rw [result_document (Client.unlogged_getByName _ name expected) hreaches hdocument]
  by_cases hfits : d.value.NestsWithin 124
  · rw [if_pos (hdepth.2 hfits), if_pos hfits, hread]
  · rw [if_neg (mt hdepth.1 hfits), if_neg hfits, Versions.ofJson_string]

end

/-- A JSON credential that the command line takes nests at most 127 deep. Once it is stored it comes
back in the answer of the server unless it nests 127 deep, and in the list of its versions if it
nests at most 124 deep; else the answer counts as no document of a credential. -/
theorem accepted_object_comes_back {σ : Type} {w : World} {fields : Fields} {s : σ}
    {o : Json.Object} (haccepted : ((fields.makeValue w .json).run s).result = .ok (.json o))
    (hfloat : (Json.object o).IsFloatFree) {t : Transport} {r : Request} {d : Details}
    {expected : Option Kind} (hr : r.value = .json o) (hd : d.value = .json o)
    (hcreated : ∀ i ∈ d.createdAt, i.FourDigitYear) (hkind : d.IsOfKind expected)
    (hput : t.Reaches w (Client.storeRequest r.toJson))
    (hget : t.Reaches w (Client.nameRequest .get r.name)) (rest : List Reply) :
    (Json.object o).depth ≤ 127 ∧
      ((Client.write (t.send w) r).run (document d.toJson :: rest)).result =
        (if (Json.object o).depth ≤ 126 then .ok d
          else .error (.malformed (.notObject .credential))) ∧
      ((Client.getByName (t.send w) r.name expected).run
          (document (Versions.mk [d]).toJson :: rest)).result =
        (if (Json.object o).depth ≤ 124 then .ok ⟨[d]⟩
          else .error (.malformed (.notObject .credentialList))) := by
  have hvalue : d.value.IsFloatFree := by
    rw [hd]
    exact Value.isFloatFree_json_iff.2 hfloat
  have hyears : d.FourDigitYears := ⟨by rw [hd]; exact Value.fourDigitYears_of_none rfl, hcreated⟩
  have hsame : r.kind = d.kind := congrArg Value.kind (hr.trans hd.symm)
  have hwrite := result_write_document hvalue hyears hsame hput rest
  have hlist := result_getByName_document hvalue hyears hkind hget rest
  simp only [hd, Value.nestsWithin_json_iff] at hwrite hlist
  obtain ⟨text, htext⟩ := Fields.exists_read_of_makeValue haccepted
  exact ⟨Json.depth_le_of_read htext, hwrite, hlist⟩

/-! ## Depths at which credentials are lost -/

theorem loopback_reaches_storeRequest (j : Json) :
    loopback.Reaches loopbackWorld (Client.storeRequest j) := by
  have hlength : (loopbackSite.dataUrl.withPairs []).text.utf8ByteSize ≤ Http.Url.longest := by
    decide +kernel
  exact (loopback_serves.reaches_iff rfl).2 hlength

theorem loopback_reaches_nestedRequest (n : Nat) :
    loopback.Reaches loopbackWorld (Client.nameRequest .get (nestedRequest n).name) := by
  have hlength : (loopbackSite.dataUrl.withPairs [("name", "/nested")]).text.utf8ByteSize ≤
      Http.Url.longest := by
    decide +kernel
  exact (loopback_serves.reaches_iff rfl).2 hlength

/-- The stored credential of `nestedRequest`. -/
def nestedDetails (n : Nat) : Details := ⟨"1", (nestedRequest n).name, .json (.nested n), none⟩

/-- A JSON credential that nests ten deep is read from both answers. -/
theorem nestedObject_comes_back :
    ((Client.write (loopback.send loopbackWorld) (nestedRequest 9)).run
        [document (nestedDetails 9).toJson]).result = .ok (nestedDetails 9) ∧
      ((Client.getByName (loopback.send loopbackWorld) (nestedRequest 9).name none).run
        [document (Versions.mk [nestedDetails 9]).toJson]).result = .ok ⟨[nestedDetails 9]⟩ := by
  have hfits {n : Nat} (hn : 9 ≤ n) : (Json.object (.nested 9)).depth ≤ n + 1 :=
    Json.depth_nested_le_iff.2 hn
  have hmake := Fields.makeValue_compact (w := loopbackWorld) (s := ()) (Json.isFloatFree_nested 9)
    (hfits (n := 126) (by decide))
  have hkind : (nestedDetails 9).IsOfKind none := nofun
  obtain ⟨-, hwrite, hlist⟩ := accepted_object_comes_back hmake
    (Json.isFloatFree_nested 9) (r := nestedRequest 9) (d := nestedDetails 9) rfl rfl nofun hkind
    (loopback_reaches_storeRequest _) (loopback_reaches_nestedRequest 9) []
  exact ⟨hwrite.trans (if_pos (hfits (n := 125) (by decide))),
    hlist.trans (if_pos (hfits (n := 123) (by decide)))⟩

/-- A JSON credential that nests 127 deep is taken by the command line and read from neither answer. -/
theorem deepObject_does_not_come_back :
    ((({ value := some (Json.object (.nested 126)).compact } : Fields).makeValue
        loopbackWorld .json).run ()).result = .ok (.json (.nested 126)) ∧
      ((Client.write (loopback.send loopbackWorld) (nestedRequest 126)).run
        [document (nestedDetails 126).toJson]).result =
          .error (.malformed (.notObject .credential)) ∧
      ((Client.getByName (loopback.send loopbackWorld) (nestedRequest 126).name none).run
        [document (Versions.mk [nestedDetails 126]).toJson]).result =
          .error (.malformed (.notObject .credentialList)) := by
  have hfloat : (nestedDetails 126).value.IsFloatFree :=
    Value.isFloatFree_json_iff.2 (Json.isFloatFree_nested 126)
  have hyears : (nestedDetails 126).FourDigitYears := ⟨Value.fourDigitYears_of_none rfl, nofun⟩
  have hkind : (nestedDetails 126).IsOfKind none := nofun
  have hdeep {n : Nat} (hn : n < 126) : ¬ (nestedDetails 126).value.NestsWithin (n + 1) := by
    intro h
    have hle := Json.depth_nested_le_iff.1 (Value.nestsWithin_json_iff.1 h)
    omega
  have hmake := Fields.makeValue_compact (w := loopbackWorld) (s := ())
    (Json.isFloatFree_nested 126) (Json.depth_nested_le_iff.2 (Nat.le_refl 126))
  have hwrite := result_write_document (r := nestedRequest 126) hfloat hyears rfl
    (loopback_reaches_storeRequest _) []
  have hlist := result_getByName_document hfloat hyears hkind
    (loopback_reaches_nestedRequest 126) []
  exact ⟨hmake, hwrite.trans (if_neg (hdeep (n := 125) (by decide))),
    hlist.trans (if_neg (hdeep (n := 123) (by decide)))⟩

end Credentials
