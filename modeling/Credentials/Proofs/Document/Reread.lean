import Credentials.Proofs.Document.Request

/-!
# Accepted documents and their rewriting

Whatever is accepted can be written again, and what is written says the same: it is of the expected
kind, its names are canonical, its actors have ids. Only its times may have left the years that can
be read. A timestamp states a local year of four digits, but the time is written in UTC, and an
offset moves the ends of these years into the years -1 and 10000 (`IsDetails.year_mem`).
`accepted_read_back` says exactly which accepted documents are accepted once more.
-/

namespace Credentials

open Json (IsMoment)

/-! ## Times of accepted documents -/

/-- An offset takes a time that was read by less than a day beyond the years of four digits. -/
theorem year_mem_of_isMoment {j : Json} {i : Instant} (h : IsMoment j i) :
    -1 ≤ i.year ∧ i.year ≤ 10000 := by
  obtain ⟨s, -, hs⟩ := h
  exact Instant.year_mem_of_parse (Instant.parse_eq_ok_iff.2 hs)

theorem year_mem_of_optional {o : Json.Object} {key : String} {r : Option Instant}
    (h : o.Optional key IsMoment r) {i : Instant} (hi : i ∈ r) : -1 ≤ i.year ∧ i.year ≤ 10000 := by
  cases h with
  | absent _ | null _ => cases hi
  | present _ hr =>
    cases hi
    exact year_mem_of_isMoment hr

/-- The same holds of the end of a certificate that was read. -/
theorem PayloadOf.year_mem {j : Json} {v : Value} (h : PayloadOf j v) {i : Instant}
    (hi : i ∈ v.expiry?) : -1 ≤ i.year ∧ i.year ≤ 10000 := by
  cases h with
  | certificate hc => exact year_mem_of_optional hc.expiry hi
  | value | valueMember | password | passwordMember | json | user | ssh | rsa => cases hi

/-- The times of an accepted document are off by at most one year. -/
theorem IsDetails.year_mem {expected : Option Kind} {j : Json} {d : Details}
    (h : IsDetails expected j d) {i : Instant} (hi : i ∈ d.createdAt ∨ i ∈ d.value.expiry?) :
    -1 ≤ i.year ∧ i.year ≤ 10000 := by
  obtain ⟨o, rfl, h⟩ := h
  rcases hi with hi | hi
  · exact year_mem_of_optional h.createdAt hi
  · obtain ⟨j, -, hj⟩ := h.value
    exact hj.year_mem hi

/-! ## What else accepted documents hold -/

/-- What is read for a kind that is expected is of this kind. -/
theorem IsDetails.isOfKind {expected : Option Kind} {j : Json} {d : Details}
    (h : IsDetails expected j d) : d.IsOfKind expected := by
  obtain ⟨o, rfl, h⟩ := h
  exact h.expected

/-- An actor that is read has an identifier that is not empty. -/
theorem Permission.id_ne_of_ofJson {j : Json} {p : Permission} (h : Permission.ofJson j = .ok p) :
    p.actor.id ≠ "" := by
  unfold Permission.ofJson at h
  simp only [bind_eq_ok_iff] at h
  obtain ⟨o, -, text, -, actor, hactor, items, -, operations, -, h⟩ := h
  cases h
  rw [Permission.actor_allowAll]
  exact (Actor.ofString_eq_ok_iff.1 hactor).2

theorem Draft.permissions_of_ofJson {j : Json} {d : Draft} (h : Draft.ofJson j = .ok d) :
    ∀ p ∈ d.permissions, p.actor.id ≠ "" := by
  unfold Draft.ofJson at h
  simp only [bind_eq_ok_iff] at h
  obtain ⟨o, -, kind, -, name, -, value, -, overwrite, -, items, -, permissions, hpermissions, h⟩ :=
    h
  cases h
  intro p hp
  obtain ⟨item, -, hitem⟩ := exists_mem_of_forall₂ (mapM_eq_ok_iff.1 hpermissions) hp
  exact Permission.id_ne_of_ofJson hitem

/-- So the actors of a request that was read have names. -/
theorem Request.actorsNamed_of_ofJson {j : Json} {r : Request} (h : Request.ofJson j = .ok r) :
    r.ActorsNamed := by
  obtain ⟨d, hd, hr⟩ := bind_eq_ok_iff.1 h
  rw [Draft.build_eq_ok_iff.1 hr] at hd
  exact Draft.permissions_of_ofJson hd

/-! ## Reading again -/

/-- What is accepted and written again is accepted again, as the same, exactly when its times are in
years of four digits in UTC. -/
theorem accepted_read_back (expected : Option Kind) (j : Json) :
    (∀ d, Details.ofJson expected j = .ok d → ∀ d',
      Details.ofJson expected d.toJson = .ok d' ↔ d' = d ∧ d.FourDigitYears) ∧
      (∀ vs, Versions.ofJson expected j = .ok vs → ∀ vs',
        Versions.ofJson expected vs.toJson = .ok vs' ↔
          vs' = vs ∧ ∀ d ∈ vs.toList, d.FourDigitYears) ∧
      ∀ r, Request.ofJson j = .ok r → ∀ r',
        Request.ofJson r.toJson = .ok r' ↔ r' = r ∧ r.value.FourDigitYears := by
  refine ⟨fun d hd d' => ?_, fun vs hvs vs' => ?_, fun r hr r' => ?_⟩
  · have hkind := (Details.ofJson_eq_ok_iff.1 hd).isOfKind
    simp only [Details.ofJson_toJson_eq_ok_iff, hkind, true_and]
  · obtain ⟨items, -, hitems⟩ := Versions.ofJson_eq_ok_iff.1 hvs
    have hkind : ∀ d ∈ vs.toList, d.IsOfKind expected := fun d hd => by
      obtain ⟨item, -, hitem⟩ := exists_mem_of_forall₂ hitems hd
      exact hitem.isOfKind
    rw [Versions.ofJson_toJson_eq_ok_iff]
    refine and_congr_right fun _ => forall₂_congr fun d hd => ?_
    exact and_iff_right (hkind d hd)
  · have hactors := Request.actorsNamed_of_ofJson hr
    simp only [Request.ofJson_toJson_eq_ok_iff, hactors, true_and]

/-- A password in the longer of its forms, stored in a leap second that is stated ahead of UTC. -/
def leapDocument : Json :=
  .ofFields
    [("id", some (.string "")),
      ("name", some (.string "//n")),
      ("type", some (.string "password")),
      ("value", some (.ofFields [("password", some (.string "p"))])),
      ("version_created_at", some (.string "2017-01-01T00:59:60.50+01:00"))]

/-- What `leapDocument` describes. -/
def leapDetails : Details where
  id := ""
  name := ⟨"/n", 'n', [], by decide, by decide⟩
  value := .password "p"
  createdAt := some ⟨1483228799, 1500000000, by decide, by decide⟩

/-- A leap second is read, written and read again by each of the readers. -/
theorem leapDocument_read_back :
    (∃ d, Details.ofJson none leapDocument = .ok d ∧ Details.ofJson none d.toJson = .ok d) ∧
      (∃ vs, Versions.ofJson none (.ofFields [("data", some (.array [leapDocument]))]) = .ok vs ∧
        Versions.ofJson none vs.toJson = .ok vs) ∧
      ∃ r, Request.ofJson leapDocument = .ok r ∧ Request.ofJson r.toJson = .ok r := by
  -- The text of the time is too long to be read by unfolding inside a document, so it is read apart.
  have hd : Details.ofJson none leapDocument = .ok leapDetails := by
    refine Details.ofJson_eq_ok_iff.2 ⟨_, rfl, rfl, by simp, rfl, ⟨"//n", rfl, 2, ['n'], rfl, rfl⟩,
      ⟨_, rfl, .passwordMember rfl⟩, .present rfl ⟨_, rfl, Instant.parse_eq_ok_iff.1 ?_⟩⟩
    decide
  have hvs : Versions.ofJson none (.ofFields [("data", some (.array [leapDocument]))]) =
      .ok ⟨[leapDetails]⟩ :=
    Versions.ofJson_eq_ok_iff.2 ⟨_, ⟨_, rfl, rfl⟩, .cons (Details.ofJson_eq_ok_iff.1 hd) .nil⟩
  have hr : Request.ofJson leapDocument =
      .ok ⟨leapDetails.name, false, .password "p", [], rfl⟩ := rfl
  refine ⟨⟨_, hd, ?_⟩, ⟨_, hvs, ?_⟩, ⟨_, hr, ?_⟩⟩
  · exact ((accepted_read_back none leapDocument).1 _ hd _).2 ⟨rfl, by decide⟩
  · exact ((accepted_read_back none _).2.1 _ hvs _).2 ⟨rfl, by decide⟩
  · exact ((accepted_read_back none leapDocument).2.2 _ hr _).2 ⟨rfl, by decide⟩

/-- A request for a certificate that expires in the last year of four digits, west of Greenwich. -/
def lateRequest : Json :=
  .ofFields
    [("name", some (.string "n")),
      ("type", some (.string "certificate")),
      ("value", some (.ofFields [("expiry_date", some (.string "9999-12-31T23:59:59-23:59"))]))]

/-- A time at the end of the year 9999 west of Greenwich is read, but not once it is written. -/
theorem lateRequest_not_reread : ∃ r, Request.ofJson lateRequest = .ok r ∧
    Request.ofJson r.toJson = .error (.malformed (.notTimestamp "expiry_date" .invalid)) := by
  refine ⟨⟨⟨"/n", 'n', [], by decide, by decide⟩, false,
    .certificate { expiry := some ⟨253402387139, 0, by decide, by decide⟩ }, [], rfl⟩, rfl, ?_⟩
  rfl

end Credentials
