import Credentials.Proofs.Circulation

/-!
# What building returns

A draft is what its history made of it: the edits since the empty draft, where going back to a copy
means going back to the history that the draft had when it was copied (`IsHistory`). Whatever steps
are taken, building returns what the history says, and nothing else that was done matters: the first
thing that is missing, the rule that the last value breaks, or the request with all that was put in
(`Draft.Verdict`). The induction is on the history, with two facts about a desk: the copy in a slot
stays until another one is put there, and building leaves everything as it is. Main statement:
`builds_follow_history`.
-/

namespace Credentials

/-! ## Histories -/

/-- The edits that the draft at hand goes back to after steps that began with the empty draft. A slot
in which nothing was put holds the empty draft. -/
inductive IsHistory : List DraftStep → List Draft.Edit → Prop
  | start : IsHistory [] []
  | edit {steps : List DraftStep} {edits : List Draft.Edit} (h : IsHistory steps edits)
      (e : Draft.Edit) : IsHistory (steps ++ [.edit e]) (edits ++ [e])
  | save {steps : List DraftStep} {edits : List Draft.Edit} (h : IsHistory steps edits)
      (slot : Nat) : IsHistory (steps ++ [.save slot]) edits
  | build {steps : List DraftStep} {edits : List Draft.Edit} (h : IsHistory steps edits) :
      IsHistory (steps ++ [.build]) edits
  | restore {before after : List DraftStep} {edits : List Draft.Edit} {slot : Nat}
      (h : IsHistory before edits) (hlast : .save slot ∉ after) :
      IsHistory (before ++ .save slot :: after ++ [.restore slot]) edits
  | reset {steps : List DraftStep} {slot : Nat} (hnever : .save slot ∉ steps) :
      IsHistory (steps ++ [.restore slot]) []

/-- What occurs in a list occurs there for the last time. -/
theorem exists_last_of_mem {α : Type} {a : α} {xs : List α} (h : a ∈ xs) :
    ∃ before after, xs = before ++ a :: after ∧ a ∉ after := by
  obtain ⟨after, before, hsplit, hafter⟩ := List.eq_append_cons_of_mem (List.mem_reverse.2 h)
  refine ⟨before.reverse, after.reverse, ?_, fun hmem => hafter (List.mem_reverse.1 hmem)⟩
  rw [← List.reverse_reverse xs, hsplit]
  simp

/-- Every course of steps leaves a history. -/
theorem exists_isHistory (steps : List DraftStep) : ∃ edits, IsHistory steps edits := by
  -- Going back to a copy leaves out many steps at once, so the induction is on their number.
  induction hn : steps.length using Nat.strong_induction_on generalizing steps with
  | h n ih =>
    subst hn
    rcases List.eq_nil_or_concat' steps with rfl | ⟨earlier, step, rfl⟩
    · exact ⟨[], .start⟩
    · obtain ⟨edits, h⟩ := ih earlier.length (by simp) earlier rfl
      cases step with
      | edit e => exact ⟨edits ++ [e], h.edit e⟩
      | save slot => exact ⟨edits, h.save slot⟩
      | build => exact ⟨edits, h.build⟩
      | restore slot =>
        by_cases hmem : .save slot ∈ earlier
        · obtain ⟨before, after, rfl, hlast⟩ := exists_last_of_mem hmem
          obtain ⟨saved, hsaved⟩ := ih before.length (by simp) before rfl
          exact ⟨saved, hsaved.restore hlast⟩
        · exact ⟨[], .reset hmem⟩

/-! ## What edits amount to -/

namespace Draft

def Edit.name? : Edit → Option Name
  | .name n => some n
  | _ => none

def Edit.value? : Edit → Option Value
  | .value v => some v
  | _ => none

def Edit.overwrite? : Edit → Option Bool
  | .overwrite b => some b
  | _ => none

/-- The permissions that an edit adds. -/
def Edit.grants : Edit → List Permission
  | .permission p => [p]
  | .permissions ps => ps
  | _ => []

def lastName? (edits : List Edit) : Option Name := (edits.filterMap Edit.name?).getLast?

def lastValue? (edits : List Edit) : Option Value := (edits.filterMap Edit.value?).getLast?

def lastOverwrite? (edits : List Edit) : Option Bool := (edits.filterMap Edit.overwrite?).getLast?

/-- What building returns after edits. -/
inductive Verdict (edits : List Edit) : Except Error Request → Prop
  | nameless (hname : lastName? edits = none) :
      Verdict edits (.error (.validation .missingName))
  | valueless {n : Name} (hname : lastName? edits = some n) (hvalue : lastValue? edits = none) :
      Verdict edits (.error (.validation .missingValue))
  | faulty {n : Name} {v : Value} {e : ValidationError} (hname : lastName? edits = some n)
      (hvalue : lastValue? edits = some v) (he : v.fault? = some e) :
      Verdict edits (.error (.validation e))
  | request {r : Request} (hname : lastName? edits = some r.name)
      (hvalue : lastValue? edits = some r.value)
      (hoverwrite : r.overwrite = (lastOverwrite? edits).getD false)
      (hpermissions : r.permissions = edits.flatMap Edit.grants) : Verdict edits (.ok r)

/-- Names, values and marks replace what was set before; permissions add up. -/
theorem foldl_edit (edits : List Edit) :
    edits.foldl edit {} =
      ⟨lastName? edits, (lastOverwrite? edits).getD false, lastValue? edits,
        edits.flatMap Edit.grants⟩ := by
  induction edits using List.reverseRecOn with
  | nil => rfl
  | append_singleton edits e ih =>
    rw [List.foldl_append, ih, List.foldl_cons, List.foldl_nil]
    cases e <;>
      simp [edit, lastName?, lastValue?, lastOverwrite?, Edit.name?, Edit.value?, Edit.overwrite?,
        Edit.grants]

/-- Building a draft of edits comes to the verdict on the edits. -/
theorem build_foldl_edit_eq_iff {edits : List Edit} {x : Except Error Request} :
    (edits.foldl edit {}).build = x ↔ Verdict edits x := by
  rw [foldl_edit]
  constructor
  · rintro rfl
    cases hname : lastName? edits with
    | none => exact .nameless hname
    | some n =>
      cases hvalue : lastValue? edits with
      | none => exact .valueless hname hvalue
      | some v =>
        cases hfault : v.fault? with
        | some e =>
          rw [Draft.build_eq_error_iff.2 ⟨e, hfault, rfl⟩]
          exact .faulty hname hvalue hfault
        | none =>
          let r : Request :=
            ⟨n, (lastOverwrite? edits).getD false, v, edits.flatMap Edit.grants, hfault⟩
          rw [Draft.build_eq_ok_iff (r := r).2 rfl]
          exact .request hname hvalue rfl rfl
  · intro h
    cases h with
    | nameless hname => rw [hname]; rfl
    | valueless hname hvalue => rw [hname, hvalue]; rfl
    | faulty hname hvalue he =>
      rw [hname, hvalue]
      exact Draft.build_eq_error_iff.2 ⟨_, he, rfl⟩
    | request hname hvalue hoverwrite hpermissions =>
      rw [hname, hvalue, ← hoverwrite, ← hpermissions]
      exact Draft.build_eq_ok_iff.2 rfl

end Draft

/-! ## Desks -/

namespace Desk

/-- The desk after steps. -/
def afterAll (d : Desk) (steps : List DraftStep) : Desk := steps.foldl after d

theorem afterAll_append (d : Desk) (steps more : List DraftStep) :
    d.afterAll (steps ++ more) = (d.afterAll steps).afterAll more :=
  List.foldl_append

/-- A copy stays until another one is put in its place. -/
theorem saved_afterAll {d : Desk} {steps : List DraftStep} {slot : Nat}
    (h : .save slot ∉ steps) : (d.afterAll steps).saved slot = d.saved slot := by
  induction steps generalizing d with
  | nil => rfl
  | cons s steps ih =>
    rw [List.mem_cons, not_or] at h
    refine (ih h.2).trans ?_
    cases s with
    | save other =>
      have hne : slot ≠ other := fun heq => h.1 (heq ▸ rfl)
      exact if_neg hne
    | edit _ | restore _ | build => rfl

/-- Going back to a copy undoes what was done since it was put aside. -/
theorem current_afterAll_restore (d : Desk) (before : List DraftStep) {between : List DraftStep}
    {slot : Nat} (h : .save slot ∉ between) :
    (d.afterAll (before ++ .save slot :: between ++ [.restore slot])).current =
      (d.afterAll before).current := by
  rw [afterAll_append, afterAll_append]
  exact (saved_afterAll h).trans (if_pos rfl)

/-- The draft at hand is what its history makes of the empty draft. -/
theorem current_of_isHistory {steps : List DraftStep} {edits : List Draft.Edit}
    (h : IsHistory steps edits) :
    (({} : Desk).afterAll steps).current = edits.foldl Draft.edit {} := by
  induction h with
  | start => rfl
  | edit _ e ih =>
    rw [afterAll_append, List.foldl_append, ← ih]
    rfl
  | save _ _ ih =>
    rw [afterAll_append]
    exact ih
  | build _ ih =>
    rw [afterAll_append]
    exact ih
  | restore _ hlast ih => exact (current_afterAll_restore _ _ hlast).trans ih
  | reset hnever =>
    rw [afterAll_append]
    exact saved_afterAll hnever

theorem length_results (d : Desk) (steps : List DraftStep) :
    (d.results steps).length = steps.length := by
  induction steps generalizing d with
  | nil => rfl
  | cons s steps ih => exact congrArg Nat.succ (ih _)

theorem results_append (d : Desk) (steps more : List DraftStep) :
    d.results (steps ++ more) = d.results steps ++ (d.afterAll steps).results more := by
  induction steps generalizing d with
  | nil => rfl
  | cons s steps ih => exact congrArg (List.cons _) (ih _)

/-- What the step behind others returns. -/
theorem getElem?_results (d : Desk) (before after : List DraftStep) (step : DraftStep) :
    (d.results (before ++ step :: after))[before.length]? =
      some ((d.afterAll before).resultOf step) := by
  rw [results_append, List.getElem?_append_right (by rw [length_results]), length_results,
    Nat.sub_self]
  rfl

/-- What a step returns: only building returns something, namely what the history says. -/
inductive Answers (before : List DraftStep) : DraftStep → Option (Except Error Request) → Prop
  | build {edits : List Draft.Edit} {x : Except Error Request} (h : IsHistory before edits)
      (hx : Draft.Verdict edits x) : Answers before .build (some x)
  | other {step : DraftStep} (h : step ≠ .build) : Answers before step none

/-- A step returns what the history before it says. -/
theorem resultOf_eq_iff {before : List DraftStep} {step : DraftStep}
    {x : Option (Except Error Request)} :
    (({} : Desk).afterAll before).resultOf step = x ↔ Answers before step x := by
  constructor
  · rintro rfl
    cases step with
    | build =>
      obtain ⟨edits, h⟩ := exists_isHistory before
      refine .build h (Draft.build_foldl_edit_eq_iff.1 ?_)
      rw [current_of_isHistory h]
    | edit _ | save _ | restore _ => exact .other nofun
  · intro h
    cases h with
    | build h hx =>
      rw [resultOf, current_of_isHistory h, Draft.build_foldl_edit_eq_iff.2 hx]
    | other h =>
      cases step with
      | build => exact absurd rfl h
      | edit _ | save _ | restore _ => rfl

end Desk

open Desk (Answers)

/-- However drafts are edited, copied and taken up again, each build returns what the history of its
draft says. So a second build returns the same, a build from a copy returns what one in place of the
copying would, and what was returned once is not touched by later steps. -/
theorem builds_follow_history {σ : Type} (steps : List DraftStep) (s : σ) :
    ∃ results, ((({} : Desk).perform steps).run s).result = .ok results ∧
      results.length = steps.length ∧
      (∀ before step after, steps = before ++ step :: after →
        ∀ x, results[before.length]? = some x ↔ Answers before step x) ∧
      (∀ before after, steps = before ++ .build :: .build :: after →
        results[before.length + 1]? = results[before.length]?) ∧
      (∀ before slot between after, .save slot ∉ between →
        steps = before ++ .save slot :: (between ++ .restore slot :: .build :: after) →
          ∀ x, results[before.length + between.length + 2]? = some x ↔ Answers before .build x) ∧
      ∀ more, ∃ later, ((({} : Desk).perform (steps ++ more)).run s).result =
        .ok (results ++ later) := by
  refine ⟨_, Desk.result_perform _ _ _, Desk.length_results _ _, ?_, ?_, ?_, ?_⟩
  · rintro before step after rfl x
    rw [Desk.getElem?_results, Option.some.injEq, Desk.resultOf_eq_iff]
  · rintro before after rfl
    have hsecond := Desk.getElem?_results {} (before ++ [.build]) after .build
    rw [List.length_append, List.append_assoc] at hsecond
    refine hsecond.trans ((Desk.getElem?_results {} before _ .build).trans ?_).symm
    rw [Desk.afterAll_append]
    rfl
  · rintro before slot between after hbetween rfl x
    have hsplit : before ++ DraftStep.save slot :: (between ++ .restore slot :: .build :: after) =
        before ++ DraftStep.save slot :: between ++ [DraftStep.restore slot] ++
          DraftStep.build :: after := by simp
    have hlength : before.length + between.length + 2 =
        (before ++ DraftStep.save slot :: between ++ [DraftStep.restore slot]).length := by
      simp only [List.length_append, List.length_cons, List.length_nil]
      omega
    -- What was copied is the draft at the time of copying, so the history is that of `before`.
    rw [hsplit, hlength, Desk.getElem?_results, Option.some.injEq, Desk.resultOf,
      Desk.current_afterAll_restore _ _ hbetween]
    change (({} : Desk).afterAll before).resultOf .build = x ↔ Answers before .build x
    exact Desk.resultOf_eq_iff
  · intro more
    exact ⟨_, (Desk.result_perform _ _ _).trans (congrArg _ (Desk.results_append _ _ _))⟩

/-- What is put aside before a value is set lacks the value, whatever was built in between. -/
theorem keySteps_follow_history :
    ∃ results, ((({} : Desk).perform keySteps).run ()).result = .ok results ∧
      results[4]? = some (some (.ok keyRequest)) ∧
      results[6]? = some (some (.error (.validation .missingValue))) := by
  obtain ⟨results, hresult, -, hall, -, hsaved, -⟩ := builds_follow_history keySteps ()
  let names : List DraftStep :=
    [.edit (.name keyRequest.name), .edit (.permissions keyRequest.permissions)]
  have hnames : IsHistory names
      [.name keyRequest.name, .permissions keyRequest.permissions] :=
    (IsHistory.start.edit _).edit _
  refine ⟨results, hresult, ?_, ?_⟩
  · exact (hall (names ++ [.save 0, .edit (.value keyRequest.value)]) .build _ rfl _).2
      (.build ((hnames.save 0).edit _) (.request rfl rfl rfl rfl))
  · exact (hsaved names 0 [.edit (.value keyRequest.value), .build] [] (by simp) rfl _).2
      (.build hnames (.valueless rfl rfl))

end Credentials
