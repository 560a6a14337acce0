import Credentials.Command.Execute
import Credentials.Proofs.Document.Similar

/-!
# Names are read alike

A reader of documents does with the text of the member `name` what is done with a text by itself,
whatever else is in the document (`Details.ofJson_insert_name`, `Request.ofJson_insert_name`).
Together with the laws of the canonical form this says what becomes of a text that is to be a name,
wherever it stands. Main statement: `names_are_canonical`.
-/

namespace Credentials

open CommandLine (nameOf)
open Json.Object (AgreeOn agreeOn_insert get?_insert_self)

/-! ## Texts by themselves -/

theorem nameOf_eq (raw : String) :
    nameOf raw = (Name.ofString? raw).elim (.error (.validation .emptyName)) .ok := by
  unfold nameOf
  cases Name.ofString? raw <;> rfl

/-- A name is made of every text that it normalizes, and of no other. -/
theorem nameOf_eq_ok_iff {raw : String} {n : Name} :
    nameOf raw = .ok n ↔ n.Normalizes raw := by
  rw [nameOf_eq, ← Name.ofString?_eq_some_iff]
  cases Name.ofString? raw <;> simp

/-! ## Names in documents -/

/-- The name that a text stands for where a document holds it. -/
def nameInDocument (raw : String) : Except Error Name :=
  (nameOf raw).mapError fun _ => .malformed .emptyName

theorem Name.ofObject_of_text {o : Json.Object} {raw : String}
    (h : o.get? "name" = some (.string raw)) : Name.ofObject o = nameInDocument raw := by
  unfold Name.ofObject nameInDocument
  rw [Json.Object.requiredString_eq_ok_iff.2 h, ok_bind, nameOf_eq]
  cases Name.ofString? raw <;> rfl

/-- Another name in a document changes the name that is read and nothing else. -/
theorem Details.ofJson_insert_name {expected : Option Kind} {o : Json.Object} {d : Details}
    (h : Details.ofJson expected (.object o) = .ok d) (raw : String) :
    Details.ofJson expected (.object (o.insert "name" (.string raw))) =
      (nameInDocument raw).map fun n => { d with name := n } := by
  have hname := Name.ofObject_of_text (get?_insert_self o "name" (.string raw))
  have hothers : AgreeOn ["type", "id", "value", "version_created_at"] o
      (o.insert "name" (.string raw)) := agreeOn_insert o _ (by decide)
  unfold Details.ofJson at h ⊢
  simp only [Json.asObject_eq_ok_iff.2 rfl, ok_bind] at h ⊢
  simp only [bind_eq_ok_iff] at h
  obtain ⟨kind, hkind, id, hid, name, -, value, hvalue, createdAt, hcreated, h⟩ := h
  cases h
  -- Every reader but that of the name finds what it found before.
  rw [Kind.ofObject_congr (hothers "type" (by decide))] at hkind
  rw [Json.Object.requiredString_congr (hothers "id" (by decide))] at hid
  rw [Value.ofObject_congr (hothers "value" (by decide))] at hvalue
  rw [Json.Object.optionalInstant_congr (hothers "version_created_at" (by decide))] at hcreated
  simp only [hkind, hid, hname, hvalue, hcreated, ok_bind]
  cases nameInDocument raw <;> rfl

/-- Another name in a request changes the name that is read and nothing else. -/
theorem Request.ofJson_insert_name {o : Json.Object} {r : Request}
    (h : Request.ofJson (.object o) = .ok r) (raw : String) :
    Request.ofJson (.object (o.insert "name" (.string raw))) =
      (nameInDocument raw).map fun n => { r with name := n } := by
  have hname := Name.ofObject_of_text (get?_insert_self o "name" (.string raw))
  have hothers : AgreeOn ["type", "value", "overwrite", "additional_permissions"] o
      (o.insert "name" (.string raw)) := agreeOn_insert o _ (by decide)
  unfold Request.ofJson at h ⊢
  rw [Draft.ofJson_object] at h ⊢
  simp only [bind_eq_ok_iff, Draft.build_eq_ok_iff] at h
  obtain ⟨d, ⟨kind, hkind, name, -, value, hvalue, overwrite, hoverwrite, ps, hps, hd⟩, rfl⟩ := h
  obtain ⟨-, hflag, hv, hgranted⟩ := Draft.mk.inj (Except.ok.inj hd)
  rw [Kind.ofObject_congr (hothers "type" (by decide))] at hkind
  rw [Value.ofObject_congr (hothers "value" (by decide))] at hvalue
  rw [Json.Object.optionalBool_congr (hothers "overwrite" (by decide))] at hoverwrite
  rw [readPermissions_congr (hothers "additional_permissions" (by decide))] at hps
  simp only [hkind, hname, hvalue, hoverwrite, hps, ok_bind]
  cases nameInDocument raw with
  | error e => rfl
  | ok n =>
    have hbuild : Draft.build ⟨some n, overwrite.getD false, some value, ps⟩ =
        .ok { r with name := n } := by
      rw [Draft.build_eq_ok_iff, hflag, hv, hgranted]
    exact hbuild

/-- A text stands for a name unless it is made of separators. The text of the name has one separator
in place of those in front and keeps everything behind them, so texts stand for the same name exactly
when they differ in leading separators only, and the text of a name stands for the name itself.
Documents change nothing about this: one that is accepted has its name from the text of its member
`name`, and any other text put there is read as it is by itself. -/
theorem names_are_canonical :
    (∀ raw, Name.ofString? raw = none ↔ ∀ c ∈ raw.toList, c = separator) ∧
      (∀ raw, nameOf raw = (Name.ofString? raw).elim (.error (.validation .emptyName)) .ok) ∧
      (∀ a b, Name.ofString? a = Name.ofString? b ↔
        a.toList.dropWhile (· == separator) = b.toList.dropWhile (· == separator)) ∧
      (∀ raw n, Name.ofString? raw = some n ↔ ∃ k c rest, c ≠ separator ∧
        raw.toList = List.replicate k separator ++ c :: rest ∧
        n.text.toList = separator :: c :: rest) ∧
      (∀ n : Name, Name.ofString? n.text = some n) ∧
      (∀ expected o d, Details.ofJson expected (.object o) = .ok d →
        (∃ raw, o.get? "name" = some (.string raw) ∧ nameOf raw = .ok d.name) ∧
        ∀ raw, Details.ofJson expected (.object (o.insert "name" (.string raw))) =
          (nameInDocument raw).map fun n => { d with name := n }) ∧
      ∀ o r, Request.ofJson (.object o) = .ok r →
        (∃ raw, o.get? "name" = some (.string raw) ∧ nameOf raw = .ok r.name) ∧
        ∀ raw, Request.ofJson (.object (o.insert "name" (.string raw))) =
          (nameInDocument raw).map fun n => { r with name := n } := by
  refine ⟨fun raw => Name.ofString?_eq_none_iff, nameOf_eq, fun a b => Name.ofString?_eq_iff,
    fun raw n => Name.ofString?_eq_some_iff_cons, Name.ofString?_text, ?_, ?_⟩
  · intro expected o d hd
    refine ⟨?_, Details.ofJson_insert_name hd⟩
    obtain ⟨p, hp, hdescribes⟩ := Details.ofJson_eq_ok_iff.1 hd
    obtain rfl := Json.object_injective hp
    simpa only [nameOf_eq_ok_iff] using hdescribes.name
  · intro o r hr
    refine ⟨?_, Request.ofJson_insert_name hr⟩
    simpa only [nameOf_eq_ok_iff] using (Request.ofJson_object_eq_ok_iff.1 hr).name

/-- A name with separators inside and at its end. -/
def slashedName : Name := ⟨"/a//b/", 'a', _, rfl, by decide⟩

theorem slashedName_read_alike :
    Name.ofString? "//a//b/" = Name.ofString? "a//b/" ∧
      (∃ raw, sharedMembers.get? "name" = some (.string raw) ∧
        nameOf raw = .ok sharedDetails.name) ∧
      Details.ofJson none (.object (sharedMembers.insert "name" (.string "//a//b/"))) =
        .ok { sharedDetails with name := slashedName } ∧
      Details.ofJson none (.object (sharedMembers.insert "name" (.string "//"))) =
        .error (.malformed .emptyName) ∧
      (∃ raw, sharedMembers.get? "name" = some (.string raw) ∧
        nameOf raw = .ok sharedRequest.name) ∧
      Request.ofJson (.object (sharedMembers.insert "name" (.string "//a//b/"))) =
        .ok { sharedRequest with name := slashedName } := by
  have hd : Details.ofJson none (.object sharedMembers) = .ok sharedDetails := rfl
  have hr : Request.ofJson (.object sharedMembers) = .ok sharedRequest := rfl
  have hslashed : nameInDocument "//a//b/" = .ok slashedName := rfl
  have hnone : nameInDocument "//" = .error (.malformed .emptyName) := rfl
  obtain ⟨-, -, hsame, -, -, hdetails, hrequest⟩ := names_are_canonical
  obtain ⟨hstored, hrestored⟩ := hdetails none sharedMembers sharedDetails hd
  obtain ⟨hasked, hreasked⟩ := hrequest sharedMembers sharedRequest hr
  refine ⟨(hsame _ _).2 rfl, hstored, ?_, ?_, hasked, ?_⟩
  · rw [hrestored, hslashed]
    rfl
  · rw [hrestored, hnone]
    rfl
  · rw [hreasked, hslashed]
    rfl

end Credentials
