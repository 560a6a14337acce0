import Credentials.Proofs.Document.Request
import Credentials.Proofs.Text.Parts
import Mathlib.Data.List.ReduceOption

/-!
# Grants

A grant is the text of an actor, the first equals sign and a list of pieces between commas
(`Splits`), each of which is blank or names an operation between blanks (`Names`). A text that is a
grant of a permission is read as that permission (`IsGrant`), and every other text is refused for the
first of four faults (`Refused`), where the list is looked at before the actor. Neither the name of an
operation nor a blank holds an equals sign, so a grant has only one, and the text of a permission is
read back unless the id of its actor holds another. Main statement: `ofGrant_accepts_or_refuses`.
-/

namespace Credentials

theorem Operation.text_ne_empty (o : Operation) : o.text ≠ "" := by
  cases o <;> decide

theorem Operation.equals_not_mem_text (o : Operation) : '=' ∉ o.text.toList := by
  cases o <;> decide

theorem Operation.comma_not_mem_text (o : Operation) : ',' ∉ o.text.toList := by
  cases o <;> decide

theorem Actor.equals_mem_text_iff (a : Actor) : '=' ∈ a.text.toList ↔ '=' ∈ a.id.toList := by
  have htag : '=' ∉ a.role.tag.toList := by
    cases a.role <;> decide
  rw [Actor.toList_text, List.mem_append, List.mem_cons, or_iff_right htag,
    or_iff_right (by decide)]

theorem Operation.trim_text (o : Operation) : Text.trim o.text = o.text := by
  cases o <;> rfl

namespace Permission

/-! ## Pieces -/

/-- A piece between commas names an operation, or nothing if it is blank. -/
inductive Names (piece : String) : Option Operation → Prop
  | nothing (h : Text.Trims piece "") : Names piece none
  | operation {o : Operation} (h : Text.Trims piece o.text) : Names piece (some o)

def readPiece (piece : String) : Except Error (Option Operation) :=
  if Text.trim piece = "" then .ok none else (Operation.ofString (Text.trim piece)).map some

/-- A piece is read as the operation that it names, or as none if it is blank. -/
theorem readPiece_eq_ok_iff {piece : String} {x : Option Operation} :
    readPiece piece = .ok x ↔ Names piece x := by
  unfold readPiece
  constructor
  · intro h
    split at h
    · rename_i hblank
      cases h
      exact .nothing (Text.trim_eq_iff.1 hblank)
    · obtain ⟨o, ho, rfl⟩ := map_eq_ok_iff.1 h
      exact .operation (Text.trim_eq_iff.1 (Operation.ofString_eq_ok_iff.1 ho))
  · intro h
    cases h with
    | nothing h => rw [if_pos (Text.trim_eq_iff.2 h)]
    | @operation o h =>
      rw [Text.trim_eq_iff.2 h, if_neg o.text_ne_empty, Operation.ofString_text]
      rfl

theorem readPiece_eq_error_iff {piece : String} {e : Error} :
    readPiece piece = .error e ↔
      ∃ name, Text.Trims piece name ∧ name ≠ "" ∧ (∀ o : Operation, name ≠ o.text) ∧
        e = .validation (.invalidPermission name .unknownOperation) := by
  unfold readPiece
  simp only [← Text.trim_eq_iff, exists_eq_left']
  split
  · rename_i hblank
    simp [hblank]
  · rename_i hname
    rw [map_eq_error_iff, Operation.ofString_eq_error_iff, and_iff_right hname]

/-- Pieces may be read one by one, the blank ones included. -/
theorem mapM_ofString_filter (pieces : List String) :
    ((pieces.map Text.trim).filter fun name => name ≠ "").mapM Operation.ofString =
      (pieces.mapM readPiece).map List.reduceOption := by
  induction pieces with
  | nil => rfl
  | cons piece pieces ih =>
    rw [List.map_cons, List.mapM_cons, readPiece]
    by_cases hblank : Text.trim piece = ""
    · rw [List.filter_cons_of_neg (by simpa using hblank), ih, if_pos hblank]
      cases pieces.mapM readPiece <;> rfl
    · rw [List.filter_cons_of_pos (by simpa using hblank), List.mapM_cons, ih, if_neg hblank]
      cases Operation.ofString (Text.trim piece) with
      | error e => rfl
      | ok o => cases pieces.mapM readPiece <;> rfl

theorem Names.equals_not_mem {piece : String} {x : Option Operation} (h : Names piece x) :
    '=' ∉ piece.toList := by
  have hblank : Text.isBlank '=' = false := by decide
  have haround {t : String} (ht : Text.Trims piece t) (hmem : '=' ∉ t.toList) :
      '=' ∉ piece.toList := by
    obtain ⟨front, back, hpiece, hfront, hback⟩ := ht.around
    rw [hpiece, List.mem_append, List.mem_append]
    rintro ((h | h) | h)
    · simp [hfront _ h] at hblank
    · exact hmem h
    · simp [hback _ h] at hblank
  cases h with
  | nothing h => exact haround h (by simp)
  | @operation o h => exact haround h o.equals_not_mem_text

/-! ## Texts in parts -/

/-- A text is an actor, the first equals sign and pieces with commas between them. -/
structure Splits (s actor : String) (pieces : List String) : Prop where
  text : s = actor ++ "=" ++ ",".intercalate pieces
  equals_not_mem : '=' ∉ actor.toList
  pieces_ne : pieces ≠ []
  comma_not_mem : ∀ piece ∈ pieces, ',' ∉ piece.toList

/-- A grant is divided at its first equals sign, and what follows at every comma. -/
theorem splits_iff {s actor : String} {pieces : List String} :
    Splits s actor pieces ↔ ∃ names, cut? '=' s.toList = some (actor.toList, names) ∧
      pieces = (names.splitOn ',').map String.ofList := by
  have hcommaText : ",".toList = [','] := rfl
  constructor
  · rintro ⟨rfl, hactor, hne, hcomma⟩
    have hsplit : ([','].intercalate (pieces.map String.toList)).splitOn ',' =
        pieces.map String.toList :=
      List.splitOn_intercalate ',' (by simpa using hcomma) (by simpa using hne)
    refine ⟨(",".intercalate pieces).toList, cut?_eq_some_iff.2 ⟨hactor, by simp⟩, ?_⟩
    rw [String.toList_intercalate, hcommaText, hsplit, List.map_map]
    simp [Function.comp_def]
  · rintro ⟨names, hcut, rfl⟩
    obtain ⟨hactor, hs⟩ := cut?_eq_some_iff.1 hcut
    refine ⟨?_, hactor, by simp, ?_⟩
    · rw [← String.toList_inj, hs]
      simp [String.toList_intercalate, Function.comp_def, List.intercalate_splitOn]
    · intro piece hpiece hmem
      obtain ⟨cs, hcs, rfl⟩ := List.mem_map.1 hpiece
      rw [List.splitOn_eq_splitOnP] at hcs
      rw [String.toList_ofList] at hmem
      simpa using ((Text.of_mem_splitOnP hcs).1 _ hmem).1

theorem exists_splits {s : String} (h : '=' ∈ s.toList) : ∃ actor pieces, Splits s actor pieces := by
  obtain ⟨front, back, hs, hfront⟩ := List.eq_append_cons_of_mem h
  refine ⟨String.ofList front, _, splits_iff.2 ⟨back, cut?_eq_some_iff.2 ?_, rfl⟩⟩
  rw [String.toList_ofList]
  exact ⟨hfront, hs⟩

/-- The permission of an actor and what the pieces name, for a text that is given for them. -/
def ofNamed (s actor : String) (named : List (Option Operation)) : Except Error Permission :=
  if named.reduceOption = [] then .error (Actor.fault s .noOperations)
  else (Actor.ofString actor).map fun a => (ofActor a).allowAll named.reduceOption

/-- The operations of a grant are read in front of its actor. -/
theorem ofGrant_of_splits {s actor : String} {pieces : List String} (h : Splits s actor pieces) :
    ofGrant s = pieces.mapM readPiece >>= ofNamed s actor := by
  obtain ⟨names, hcut, rfl⟩ := splits_iff.1 h
  have hnames : (operationNames names).mapM Operation.ofString =
      (((names.splitOn ',').map String.ofList).mapM readPiece).map List.reduceOption := by
    rw [← mapM_ofString_filter, operationNames, List.map_map]
    rfl
  unfold ofGrant
  simp only [hcut, hnames, String.ofList_toList]
  cases ((names.splitOn ',').map String.ofList).mapM readPiece with
  | error e => rfl
  | ok named =>
    simp only [ok_bind, Except.map, List.isEmpty_iff, ofNamed]
    split
    · rfl
    · cases Actor.ofString actor <;> rfl

theorem ofGrant_of_not_mem {s : String} (h : '=' ∉ s.toList) :
    ofGrant s = .error (Actor.fault s .noEquals) := by
  have hcut : cut? '=' s.toList = none := by
    refine Option.eq_none_iff_forall_ne_some.2 fun parts hparts => h ?_
    rw [(cut?_eq_some_iff.1 hparts).2]
    simp
  unfold ofGrant
  rw [hcut]

/-! ## What is read -/

/-- A text is a grant of a permission: what its pieces name, each operation at its first place, for
the actor in front. -/
inductive IsGrant (s : String) (p : Permission) : Prop
  | intro {actor : String} {pieces : List String} {named : List (Option Operation)}
      (hs : Splits s actor pieces) (hnamed : List.Forall₂ Names pieces named)
      (hsome : named.reduceOption ≠ []) (hactor : Actor.ofString actor = .ok p.actor)
      (hoperations : p.operations = named.reduceOption.eraseDups) : IsGrant s p

/-- Why a text is no grant: the first unknown operation comes before a list that names none, and the
actor comes last. -/
inductive Refused (s : String) : Error → Prop
  | noEquals (h : '=' ∉ s.toList) : Refused s (Actor.fault s .noEquals)
  | unknownOperation {actor piece name : String} {before after : List String}
      (hs : Splits s actor (before ++ piece :: after))
      (hbefore : ∀ q ∈ before, ∃ x, Names q x) (hpiece : Text.Trims piece name) (hne : name ≠ "")
      (hnone : ∀ o : Operation, name ≠ o.text) :
      Refused s (.validation (.invalidPermission name .unknownOperation))
  | noOperations {actor : String} {pieces : List String} (hs : Splits s actor pieces)
      (hblank : ∀ piece ∈ pieces, Text.Trims piece "") : Refused s (Actor.fault s .noOperations)
  | actor {actor : String} {pieces : List String} {named : List (Option Operation)}
      {f : PermissionFault} (hs : Splits s actor pieces)
      (hnamed : List.Forall₂ Names pieces named) (hsome : named.reduceOption ≠ [])
      (hf : Actor.IsFaulty actor f) : Refused s (Actor.fault actor f)

theorem ofNamed_eq_ok_iff {s actor : String} {named : List (Option Operation)} {p : Permission} :
    ofNamed s actor named = .ok p ↔ named.reduceOption ≠ [] ∧
      Actor.ofString actor = .ok p.actor ∧ p.operations = named.reduceOption.eraseDups := by
  unfold ofNamed
  split
  · rename_i hnil
    simp [hnil]
  · rename_i hsome
    rw [map_eq_ok_iff, and_iff_right hsome]
    constructor
    · rintro ⟨a, ha, rfl⟩
      exact ⟨by rwa [actor_allowAll], operations_allowAll_ofActor a _⟩
    · rintro ⟨hactor, hoperations⟩
      refine ⟨_, hactor, Permission.ext (actor_allowAll _ _) ?_⟩
      rw [operations_allowAll_ofActor, hoperations]

theorem ofNamed_eq_error_iff {s actor : String} {named : List (Option Operation)} {e : Error} :
    ofNamed s actor named = .error e ↔
      named.reduceOption = [] ∧ e = Actor.fault s .noOperations ∨
        named.reduceOption ≠ [] ∧ ∃ f, Actor.IsFaulty actor f ∧ e = Actor.fault actor f := by
  unfold ofNamed
  split
  · rename_i hnil
    simp [hnil, eq_comm]
  · rename_i hsome
    simp [hsome, map_eq_error_iff, Actor.ofString_eq_error_iff]

/-- A permission is read from a grant as the grammar says. -/
theorem ofGrant_eq_ok_iff {s : String} {p : Permission} : ofGrant s = .ok p ↔ IsGrant s p := by
  constructor
  · intro h
    by_cases hmem : '=' ∈ s.toList
    · obtain ⟨actor, pieces, hs⟩ := exists_splits hmem
      rw [ofGrant_of_splits hs, bind_eq_ok_iff] at h
      obtain ⟨named, hnamed, h⟩ := h
      obtain ⟨hsome, hactor, hoperations⟩ := ofNamed_eq_ok_iff.1 h
      simp only [mapM_eq_ok_iff, readPiece_eq_ok_iff] at hnamed
      exact .intro hs hnamed hsome hactor hoperations
    · rw [ofGrant_of_not_mem hmem] at h
      cases h
  · rintro ⟨hs, hnamed, hsome, hactor, hoperations⟩
    rw [ofGrant_of_splits hs, bind_eq_ok_iff]
    simp only [mapM_eq_ok_iff, readPiece_eq_ok_iff]
    exact ⟨_, hnamed, ofNamed_eq_ok_iff.2 ⟨hsome, hactor, hoperations⟩⟩

/-- No operation is named exactly when every piece is blank. -/
theorem names_nothing_iff {pieces : List String} {named : List (Option Operation)}
    (h : List.Forall₂ Names pieces named) :
    named.reduceOption = [] ↔ ∀ piece ∈ pieces, Text.Trims piece "" := by
  induction h with
  | nil => simp
  | @cons piece x pieces named hpiece _ ih =>
    rw [List.forall_mem_cons]
    cases hpiece with
    | nothing hblank => rw [List.reduceOption_cons_of_none, ih, and_iff_right hblank]
    | @operation o hname =>
      refine iff_of_false (by simp) fun hblank => o.text_ne_empty ?_
      rw [← Text.trim_eq_iff.2 hname, Text.trim_eq_iff.2 hblank.1]

theorem refused_of_ofGrant {s : String} {e : Error} (h : ofGrant s = .error e) : Refused s e := by
  by_cases hmem : '=' ∈ s.toList
  · obtain ⟨actor, pieces, hs⟩ := exists_splits hmem
    rw [ofGrant_of_splits hs] at h
    rcases bind_eq_error_iff.1 h with hunknown | ⟨named, hnamed, h⟩
    · simp only [mapM_eq_error_iff, readPiece_eq_ok_iff, readPiece_eq_error_iff] at hunknown
      obtain ⟨before, piece, after, rfl, hbefore, name, hpiece, hne, hnone, rfl⟩ := hunknown
      exact .unknownOperation hs hbefore hpiece hne hnone
    · simp only [mapM_eq_ok_iff, readPiece_eq_ok_iff] at hnamed
      rcases ofNamed_eq_error_iff.1 h with ⟨hnil, rfl⟩ | ⟨hsome, f, hf, rfl⟩
      · exact .noOperations hs ((names_nothing_iff hnamed).1 hnil)
      · exact .actor hs hnamed hsome hf
  · rw [ofGrant_of_not_mem hmem] at h
    cases h
    exact .noEquals hmem

/-- A grant that is at fault is refused with the error that says how. -/
theorem Refused.ofGrant_eq {s : String} {e : Error} (h : Refused s e) : ofGrant s = .error e := by
  cases h with
  | noEquals h => exact ofGrant_of_not_mem h
  | unknownOperation hs hbefore hpiece hne hnone =>
    rw [ofGrant_of_splits hs, bind_eq_error_iff]
    simp only [mapM_eq_error_iff, readPiece_eq_ok_iff, readPiece_eq_error_iff]
    exact .inl ⟨_, _, _, rfl, hbefore, _, hpiece, hne, hnone, rfl⟩
  | @noOperations actor pieces hs hblank =>
    have hnamed : List.Forall₂ Names pieces (pieces.map fun _ => none) := by
      rw [List.forall₂_map_right_iff, List.forall₂_same]
      exact fun piece hpiece => .nothing (hblank piece hpiece)
    rw [ofGrant_of_splits hs, bind_eq_error_iff]
    simp only [mapM_eq_ok_iff, readPiece_eq_ok_iff]
    refine .inr ⟨_, hnamed, ofNamed_eq_error_iff.2 (.inl ⟨?_, rfl⟩)⟩
    exact (names_nothing_iff hnamed).2 hblank
  | actor hs hnamed hsome hf =>
    rw [ofGrant_of_splits hs, bind_eq_error_iff]
    simp only [mapM_eq_ok_iff, readPiece_eq_ok_iff]
    exact .inr ⟨_, hnamed, ofNamed_eq_error_iff.2 (.inr ⟨hsome, _, hf, rfl⟩)⟩

/-- A grant is refused exactly for its first fault. -/
theorem ofGrant_eq_error_iff {s : String} {e : Error} : ofGrant s = .error e ↔ Refused s e :=
  ⟨refused_of_ofGrant, Refused.ofGrant_eq⟩

/-! ## What is written -/

def text (p : Permission) : String :=
  p.actor.text ++ "=" ++ ",".intercalate (p.operations.map Operation.text)

theorem equals_not_mem_intercalate {pieces : List String} {named : List (Option Operation)}
    (h : List.Forall₂ Names pieces named) : '=' ∉ (",".intercalate pieces).toList := by
  induction h with
  | nil => simp
  | @cons piece x pieces named hpiece _ ih =>
    by_cases hlast : pieces = []
    · rw [hlast, String.intercalate_singleton]
      exact hpiece.equals_not_mem
    · rw [String.intercalate_cons_of_ne_nil hlast, String.toList_append, String.toList_append,
        List.mem_append, List.mem_append]
      rintro ((h | h) | h)
      · exact hpiece.equals_not_mem h
      · exact absurd h (by decide)
      · exact ih h

/-- The first equals sign of a grant is the only one: names and blanks follow it. -/
theorem IsGrant.count_equals {s : String} {p : Permission} (h : IsGrant s p) :
    s.toList.count '=' = 1 := by
  obtain ⟨hs, hnamed, -, -, -⟩ := h
  have hactor := List.count_eq_zero.2 hs.equals_not_mem
  have hpieces := List.count_eq_zero.2 (equals_not_mem_intercalate hnamed)
  rw [hs.text, String.toList_append, String.toList_append, List.count_append, List.count_append,
    hactor, hpieces]
  rfl

theorem Splits.unique {s actor actor' : String} {pieces pieces' : List String}
    (h : Splits s actor pieces) (h' : Splits s actor' pieces') :
    actor = actor' ∧ pieces = pieces' := by
  obtain ⟨names, hcut, rfl⟩ := splits_iff.1 h
  obtain ⟨names', hcut', rfl⟩ := splits_iff.1 h'
  rw [hcut, Option.some.injEq, Prod.mk.injEq, String.toList_inj] at hcut'
  obtain ⟨rfl, rfl⟩ := hcut'
  exact ⟨rfl, rfl⟩

theorem names_text_iff {o : Operation} {x : Option Operation} : Names o.text x ↔ some o = x := by
  rw [← readPiece_eq_ok_iff, readPiece, o.trim_text, if_neg o.text_ne_empty,
    Operation.ofString_text, Except.map, Except.ok.injEq]

theorem forall₂_names_text {os : List Operation} {named : List (Option Operation)} :
    List.Forall₂ Names (os.map Operation.text) named ↔ os.map some = named := by
  rw [← List.forall₂_eq_eq_eq, List.forall₂_map_left_iff, List.forall₂_map_left_iff]
  simp only [names_text_iff]

theorem reduceOption_map_some (os : List Operation) : (os.map some).reduceOption = os := by
  simp [List.reduceOption]

/-- The text of a permission is divided into its actor and its operations, unless the actor holds an
equals sign. -/
theorem splits_text {p : Permission} (hequals : '=' ∉ p.actor.id.toList) :
    Splits p.text p.actor.text
      (if p.operations = [] then [""] else p.operations.map Operation.text) := by
  rw [← Actor.equals_mem_text_iff] at hequals
  split
  · rename_i hnone
    exact ⟨by simp [text, hnone], hequals, by simp, by simp⟩
  · rename_i hsome
    refine ⟨rfl, hequals, by simpa using hsome, ?_⟩
    rw [List.forall_mem_map]
    exact fun o _ => o.comma_not_mem_text

/-- The text of a permission is a grant of it alone, unless it grants nothing, or its actor has no id
or one with an equals sign. -/
theorem isGrant_text_iff {p q : Permission} :
    IsGrant p.text q ↔
      q = p ∧ p.operations ≠ [] ∧ p.actor.id ≠ "" ∧ '=' ∉ p.actor.id.toList := by
  constructor
  · intro h
    have hequals : '=' ∉ p.actor.id.toList := by
      have hcount := h.count_equals
      rw [text, String.toList_append, String.toList_append, List.count_append, List.count_append,
        show "=".toList.count '=' = 1 from rfl] at hcount
      rw [← Actor.equals_mem_text_iff, ← List.count_eq_zero]
      omega
    obtain ⟨hs, hnamed, hsome, hactor, hoperations⟩ := h
    obtain ⟨rfl, rfl⟩ := (splits_text hequals).unique hs
    split at hnamed
    · -- Nothing is written behind the equals sign, which is one blank piece.
      refine absurd ((names_nothing_iff hnamed).2 ?_) hsome
      rw [List.forall_mem_singleton]
      exact Text.trim_eq_iff.1 rfl
    · rename_i hgrants
      obtain rfl := forall₂_names_text.1 hnamed
      rw [reduceOption_map_some, eraseDups_eq_self p.nodup] at hoperations
      rw [Actor.ofString_text] at hactor
      split at hactor
      · cases hactor
      · rename_i hid
        exact ⟨Permission.ext (Except.ok.inj hactor).symm hoperations, hgrants, hid, hequals⟩
  · rintro ⟨rfl, hsome, hid, hequals⟩
    have hs := splits_text hequals
    rw [if_neg hsome] at hs
    refine .intro hs (forall₂_names_text.2 rfl) ?_
      (Actor.ofString_eq_ok_iff.2 ⟨rfl, hid⟩) ?_
    · rwa [reduceOption_map_some]
    · rw [reduceOption_map_some, eraseDups_eq_self q.nodup]

/-- A text is read as a permission exactly when it is a grant of it, and refused exactly for the first
fault in it otherwise. The text of a permission is a grant of that permission alone, unless it grants
nothing, or its actor has no id or one with an equals sign. A permission that was read is read again from
its document, and from the document of any request for it. -/
theorem ofGrant_accepts_or_refuses :
    (∀ s p, ofGrant s = .ok p ↔ IsGrant s p) ∧
      (∀ s e, ofGrant s = .error e ↔ Refused s e) ∧
      (∀ p q : Permission, ofGrant p.text = .ok q ↔
        q = p ∧ p.operations ≠ [] ∧ p.actor.id ≠ "" ∧ '=' ∉ p.actor.id.toList) ∧
      (∀ s p, ofGrant s = .ok p → ∀ q, Permission.ofJson p.toJson = .ok q ↔ q = p) ∧
      ∀ r : Request, (∀ p ∈ r.permissions, ∃ s, ofGrant s = .ok p) →
        ∀ r', Request.ofJson r.toJson = .ok r' ↔ r' = r ∧ r.value.FourDigitYears := by
  have hid {s : String} {p : Permission} (h : ofGrant s = .ok p) : p.actor.id ≠ "" := by
    obtain ⟨-, -, -, hactor, -⟩ := ofGrant_eq_ok_iff.1 h
    exact (Actor.ofString_eq_ok_iff.1 hactor).2
  refine ⟨fun s p => ofGrant_eq_ok_iff, fun s e => ofGrant_eq_error_iff, ?_, ?_, ?_⟩
  · intro p q
    rw [ofGrant_eq_ok_iff, isGrant_text_iff]
  · intro s p h q
    rw [ofJson_toJson_eq_ok_iff, and_iff_left (hid h)]
  · intro r hgrants r'
    have hnamed : r.ActorsNamed := by
      intro p hp
      obtain ⟨s, hs⟩ := hgrants p hp
      exact hid hs
    rw [Request.ofJson_toJson_eq_ok_iff, and_iff_right hnamed]

def readWrite : Permission := ⟨⟨.client, "ci"⟩, [.read, .write], by decide⟩

def readWriteRequest : Request where
  name := ⟨"/k", isCanonical_k⟩
  overwrite := false
  value := .password "p"
  permissions := [readWrite]
  valid := rfl

theorem readWriteRequest_read_back :
    IsGrant "uaa-client:ci=read, ,write,read" readWrite ∧
      (∀ q, Permission.ofJson readWrite.toJson = .ok q ↔ q = readWrite) ∧
      ∀ r', Request.ofJson readWriteRequest.toJson = .ok r' ↔
        r' = readWriteRequest ∧ readWriteRequest.value.FourDigitYears := by
  have hgrant : ofGrant "uaa-client:ci=read, ,write,read" = .ok readWrite := by decide
  obtain ⟨haccepts, -, -, hdocument, hrequest⟩ := ofGrant_accepts_or_refuses
  refine ⟨(haccepts _ _).1 hgrant, hdocument _ _ hgrant, hrequest readWriteRequest ?_⟩
  intro p hp
  obtain rfl := List.mem_singleton.1 hp
  exact ⟨_, hgrant⟩

end Permission

end Credentials
