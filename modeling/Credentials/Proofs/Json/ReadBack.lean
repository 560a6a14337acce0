import Credentials.Proofs.Json.Lexeme
import Credentials.Proofs.Json.Members

/-!
# Compact text is read back

The compact text of a value is read as the value, member for member and in order, as long as arrays
and objects are not nested deeper than a text may nest them; a deeper value is refused for its depth
and for nothing else. Doubles are left out: their shortest text may be read as a neighbour. Main
statement: `read_compact`.

A step is said to read something up to `rest` with what it returns and with how it fails
(`Reads`), so that one induction over the tree settles both sides of the limit. Its other measure is
the number of steps, of which the length of the text is always enough.
-/

namespace Credentials.Json

/-- If `fits`, the step reads something with `P` up to `rest`, and else it stops for the depth. -/
def Reads {α : Type} (rest : List Char) (fits : Prop) (P : α → Prop) (x : Step α) : Prop :=
  (fits ∧ ∃ a, x = .ok (a, rest) ∧ P a) ∨ (¬ fits ∧ ∃ left, x = .error ⟨.tooDeep, left⟩)

theorem Reads.ok {α : Type} {rest : List Char} {fits : Prop} {P : α → Prop} {a : α} (h : fits)
    (ha : P a) : Reads rest fits P (.ok (a, rest)) :=
  .inl ⟨h, a, rfl, ha⟩

theorem Reads.map {α β : Type} {rest : List Char} {fits fits' : Prop} {P : α → Prop}
    {Q : β → Prop} {x : Step α} {f : α → β} (h : Reads rest fits P x) (hfits : fits' ↔ fits)
    (hf : ∀ a, P a → Q (f a)) : Reads rest fits' Q (x.map fun r => (f r.1, r.2)) := by
  rcases h with ⟨h, a, rfl, ha⟩ | ⟨h, left, rfl⟩
  · exact .inl ⟨hfits.2 h, f a, rfl, hf a ha⟩
  · exact .inr ⟨mt hfits.1 h, left, rfl⟩

/-! ## Texts of trees -/

namespace Tree

/-- What stands behind an item: the other items, each behind a comma. -/
def moreItems : List Tree → List Char
  | [] => []
  | t :: ts => ',' :: compactItems (t :: ts)

/-- What stands behind a member: the other members, each behind a comma. -/
def moreMembers : List (String × Tree) → List Char
  | [] => []
  | m :: ms => ',' :: compactMembers (m :: ms)

theorem compactItems_cons (t : Tree) (ts : List Tree) :
    compactItems (t :: ts) = t.compact ++ moreItems ts := by
  cases ts with
  | nil => simp [compactItems, moreItems]
  | cons u us => rfl

theorem compactMembers_cons (k : String) (t : Tree) (ms : List (String × Tree)) :
    compactMembers ((k, t) :: ms) = quote k ++ ':' :: (t.compact ++ moreMembers ms) := by
  cases ms with
  | nil => simp [compactMembers, moreMembers]
  | cons m ms => simp [compactMembers, moreMembers]

/-- Neither a blank nor a closing bracket: a character that a value may begin with. -/
def Opens (c : Char) : Prop := isBlank c = false ∧ c ≠ ']'

theorem opens_of_isDigit {c : Char} (h : c.isDigit = true) : Opens c := by
  refine ⟨?_, ?_⟩
  · by_contra hblank
    simp only [isBlank, Bool.not_eq_false, Bool.or_eq_true, beq_iff_eq] at hblank
    rcases hblank with ((rfl | rfl) | rfl) | rfl <;> exact absurd h (by decide)
  · rintro rfl
    exact absurd h (by decide)

theorem toList_text_integer (n : Integer) :
    (Number.integer n).text.toList =
      if n.val < 0 then '-' :: Nat.toDigits 10 n.val.natAbs else Nat.toDigits 10 n.val.natAbs := by
  obtain ⟨v, -, -⟩ := n
  cases v with
  | ofNat m => exact Nat.toList_repr
  | negSucc m =>
    have htext : (toString (Int.negSucc m)).toList = '-' :: (m + 1).repr.toList := by
      rw [Int.toString_eq_repr]
      exact String.toList_append
    rw [if_pos (Int.negSucc_lt_zero m)]
    exact htext.trans (congrArg _ Nat.toList_repr)

/-- A compact text begins with a character that tells its sort. -/
theorem exists_compact (t : Tree) (h : t.hasFloat = false) :
    ∃ c s, t.compact = c :: s ∧ Opens c := by
  cases t with
  | null => exact ⟨_, _, rfl, by decide, by decide⟩
  | bool b => cases b <;> exact ⟨_, _, rfl, by decide, by decide⟩
  | string s => exact ⟨_, _, rfl, by decide, by decide⟩
  | array ts => exact ⟨_, _, rfl, by decide, by decide⟩
  | object ms => exact ⟨_, _, rfl, by decide, by decide⟩
  | number n =>
    cases n with
    | float x => cases h
    | integer n =>
      obtain ⟨d, ds, hds, -⟩ := exists_toDigits n.val.natAbs
      rw [compact, toList_text_integer]
      split
      · exact ⟨_, _, rfl, by decide, by decide⟩
      · have hd : d ∈ Nat.toDigits 10 n.val.natAbs := by simp [hds]
        exact ⟨d, ds, hds, opens_of_isDigit (isDigit_of_mem_toDigits hd)⟩

end Tree

/-! ## Steps in front of values -/

theorem skipBlanks_cons {c : Char} (h : isBlank c = false) (s : List Char) :
    skipBlanks (c :: s) = c :: s :=
  List.dropWhile_cons_of_neg (by simp [h])

theorem nextItem_true {c : Char} (h : Tree.Opens c) (s : List Char) :
    nextItem true (c :: s) = .ok (true, c :: s) := by
  unfold nextItem
  rw [skipBlanks_cons h.1]
  split
  · rename_i heq
    cases heq
  · rename_i heq
    exact absurd (List.cons.inj heq).1 h.2
  · rename_i heq
    cases heq
    rfl

theorem nextItem_false {c : Char} (h : Tree.Opens c) (s : List Char) :
    nextItem false (',' :: c :: s) = .ok (true, c :: s) := by
  have hcomma : skipBlanks (',' :: c :: s) = ',' :: c :: s := skipBlanks_cons (by decide) _
  unfold nextItem
  rw [hcomma]
  split
  · rename_i heq
    cases heq
  · rename_i heq
    cases heq
  · rename_i heq
    cases heq
    rw [if_neg Bool.false_ne_true, if_pos rfl, skipBlanks_cons h.1]
    split
    · rename_i heq
      cases heq
    · rename_i heq
      exact absurd (List.cons.inj heq).1 h.2
    · rfl

theorem nextKey_true (n : Nat) (s : List Char) :
    nextKey n true ('"' :: s) = (chars n s).map fun r => (some r.1, r.2) := rfl

theorem nextKey_false (n : Nat) (s : List Char) :
    nextKey n false (',' :: '"' :: s) = (chars n s).map fun r => (some r.1, r.2) := rfl

/-- Items as they follow: the first without a comma in front, the others with one. -/
def itemsFrom (first : Bool) (ts : List Tree) : List Char :=
  if first then Tree.compactItems ts else Tree.moreItems ts

/-- Members as they follow: the first without a comma in front, the others with one. -/
def membersFrom (first : Bool) (ms : List (String × Tree)) : List Char :=
  if first then Tree.compactMembers ms else Tree.moreMembers ms

theorem itemsFrom_true_cons (t : Tree) (ts : List Tree) :
    itemsFrom true (t :: ts) = t.compact ++ itemsFrom false ts :=
  Tree.compactItems_cons t ts

theorem itemsFrom_false_cons (t : Tree) (ts : List Tree) :
    itemsFrom false (t :: ts) = ',' :: itemsFrom true (t :: ts) := rfl

theorem membersFrom_true_cons (k : String) (t : Tree) (ms : List (String × Tree)) :
    membersFrom true ((k, t) :: ms) = quote k ++ ':' :: (t.compact ++ membersFrom false ms) :=
  Tree.compactMembers_cons k t ms

theorem membersFrom_false_cons (m : String × Tree) (ms : List (String × Tree)) :
    membersFrom false (m :: ms) = ',' :: membersFrom true (m :: ms) := rfl

theorem nextItem_nil (first : Bool) (rest : List Char) :
    nextItem first (itemsFrom first [] ++ ']' :: rest) = .ok (false, rest) := by
  cases first <;> rfl

/-- In front of an item the reader finds it. -/
theorem nextItem_cons (first : Bool) {t : Tree} (h : t.hasFloat = false) (ts : List Tree)
    (rest : List Char) :
    nextItem first (itemsFrom first (t :: ts) ++ rest) =
      .ok (true, t.compact ++ (itemsFrom false ts ++ rest)) := by
  obtain ⟨c, s, hcs, hc⟩ := t.exists_compact h
  cases first with
  | true =>
    rw [itemsFrom_true_cons, hcs, List.append_assoc, List.cons_append]
    exact nextItem_true hc _
  | false =>
    rw [itemsFrom_false_cons, itemsFrom_true_cons, hcs, List.cons_append, List.append_assoc,
      List.cons_append]
    exact nextItem_false hc _

theorem nextKey_nil (n : Nat) (first : Bool) (rest : List Char) :
    nextKey n first (membersFrom first [] ++ '}' :: rest) = .ok (none, rest) := by
  cases first <;> rfl

/-- In front of a member the reader finds its key. -/
theorem nextKey_cons {n : Nat} {k : String} (hk : (quote k).length ≤ n + 1) (first : Bool) (t : Tree)
    (ms : List (String × Tree)) (rest : List Char) :
    nextKey n first (membersFrom first ((k, t) :: ms) ++ rest) =
      .ok (some k.toList, ':' :: (t.compact ++ (membersFrom false ms ++ rest))) := by
  have hchars := chars_quote hk (':' :: (t.compact ++ (membersFrom false ms ++ rest)))
  cases first with
  | true =>
    rw [membersFrom_true_cons, List.append_assoc, quote_append, List.cons_append, List.append_assoc,
      nextKey_true, hchars]
    rfl
  | false =>
    rw [membersFrom_false_cons, membersFrom_true_cons, List.cons_append, List.append_assoc,
      quote_append, List.cons_append, List.append_assoc, nextKey_false, hchars]
    rfl

theorem colon_cons (rest : List Char) : colon (':' :: rest) = .ok rest := rfl

/-! ## Values -/

theorem endsNumber_cons {c : Char} (h : c.isDigit = false ∧ c ≠ '.' ∧ c ≠ 'e' ∧ c ≠ 'E')
    (rest : List Char) : EndsNumber (c :: rest) := by
  intro d hd
  cases hd
  exact h

theorem endsNumber_items (ts : List Tree) (rest : List Char) :
    EndsNumber (itemsFrom false ts ++ ']' :: rest) := by
  cases ts with
  | nil => exact endsNumber_cons (by decide) _
  | cons t ts => exact endsNumber_cons (by decide) _

theorem endsNumber_members (ms : List (String × Tree)) (rest : List Char) :
    EndsNumber (membersFrom false ms ++ '}' :: rest) := by
  cases ms with
  | nil => exact endsNumber_cons (by decide) _
  | cons m ms => exact endsNumber_cons (by decide) _

theorem value_digit (n room : Nat) {c : Char} (h : c.isDigit = true) (s : List Char) :
    value (n + 1) room (c :: s) = (numberFrom false (c :: s)).map fun r => (number r.1, r.2) := by
  rw [value, skipBlanks_cons (Tree.opens_of_isDigit h).1]
  split
  case h_9 heq =>
    obtain ⟨rfl, rfl⟩ := List.cons.inj heq
    rw [if_pos h]
  all_goals
    rename_i heq
    cases heq <;> exact absurd h (by decide)

/-- A written string is read as a value, if there are steps for its text. -/
theorem value_string (n room : Nat) {s : String} (h : (quote s).length ≤ n + 1) (rest : List Char) :
    value (n + 1) room (quote s ++ rest) = .ok (string s, rest) := by
  have hvalue : value (n + 1) room (quote s ++ rest) =
      (chars (n + 1) (s.toList.flatMap escapeChar ++ '"' :: rest)).map fun r =>
        (string (String.ofList r.1), r.2) := by
    rw [quote_append]
    rfl
  rw [hvalue, chars_quote (by omega), Except.map, String.ofList_toList]

/-- A written whole number is read as a value, if nothing goes on with it. -/
theorem value_integer (n room : Nat) (x : Integer) {rest : List Char} (hrest : EndsNumber rest) :
    value (n + 1) room ((Number.integer x).text.toList ++ rest) =
      .ok (number (.integer x), rest) := by
  rw [Tree.toList_text_integer]
  split
  · have hsign : value (n + 1) room ('-' :: Nat.toDigits 10 x.val.natAbs ++ rest) =
        (numberFrom true (Nat.toDigits 10 x.val.natAbs ++ rest)).map fun r => (number r.1, r.2) :=
      rfl
    have hval : x.val = if true then -(x.val.natAbs : Int) else x.val.natAbs := by
      rw [if_pos rfl]
      omega
    rw [hsign, numberFrom_toDigits hval (by omega) hrest]
    rfl
  · obtain ⟨d, ds, hds, -⟩ := exists_toDigits x.val.natAbs
    have hd : d.isDigit = true :=
      isDigit_of_mem_toDigits (show d ∈ Nat.toDigits 10 x.val.natAbs by simp [hds])
    have hread : numberFrom false (Nat.toDigits 10 x.val.natAbs ++ rest) = .ok (.integer x, rest) :=
      numberFrom_toDigits (by rw [if_neg Bool.false_ne_true]; omega) nofun hrest
    rw [hds, List.cons_append] at hread ⊢
    rw [value_digit n room hd, hread]
    rfl

mutual

/-- A value is read back from its compact text if it does not nest too deep. -/
theorem reads_value (n room : Nat) {t : Tree} {rest : List Char} (ht : t.Distinct)
    (hfloat : t.hasFloat = false) (hn : t.compact.length ≤ n) (hrest : EndsNumber rest) :
    Reads rest (t.depth ≤ room) (fun j => j.tree = t) (value n room (t.compact ++ rest)) := by
  obtain ⟨c, s, hcs, hc⟩ := t.exists_compact hfloat
  obtain ⟨n, rfl⟩ : ∃ m, n = m + 1 := by
    refine Nat.exists_eq_succ_of_ne_zero fun hzero => ?_
    rw [hcs, List.length_cons] at hn
    omega
  cases t with
  | null => exact .ok (Nat.zero_le _) rfl
  | bool b => cases b <;> exact .ok (Nat.zero_le _) rfl
  | string s =>
    rw [Tree.compact] at hn ⊢
    rw [value_string n room hn]
    exact .ok (Nat.zero_le _) rfl
  | number x =>
    cases x with
    | float x => cases hfloat
    | integer x =>
      rw [Tree.compact, value_integer n room x hrest]
      exact .ok (Nat.zero_le _) rfl
  | array ts =>
    have hlength : (Tree.array ts).compact.length = (itemsFrom true ts).length + 2 := by
      simp [Tree.compact, itemsFrom]
    have htext : (Tree.array ts).compact ++ rest = '[' :: (itemsFrom true ts ++ ']' :: rest) := by
      simp [Tree.compact, itemsFrom]
    rw [htext]
    cases room with
    | zero =>
      refine .inr ⟨by simp [Tree.depth], _, rfl⟩
    | succ room =>
      have hitems := reads_items n room true rest ht hfloat (by omega)
      refine hitems.map (f := Json.array) ?_ ?_
      · rw [Tree.depth, Nat.add_le_add_iff_right]
      · rintro js rfl
        rfl
  | object ms =>
    have hlength : (Tree.object ms).compact.length = (membersFrom true ms).length + 2 := by
      simp [Tree.compact, membersFrom]
    have htext : (Tree.object ms).compact ++ rest =
        '{' :: (membersFrom true ms ++ '}' :: rest) := by
      simp [Tree.compact, membersFrom]
    rw [htext]
    cases room with
    | zero => exact .inr ⟨by simp [Tree.depth], _, rfl⟩
    | succ room =>
      have hmembers := reads_members n room true (o := .empty) rest ht.1 ht.2 hfloat (by omega)
      refine hmembers.map (f := Json.object) ?_ ?_
      · rw [Tree.depth, Nat.add_le_add_iff_right]
      · intro p hp
        exact congrArg Tree.object hp

/-- The items of an array are read back up to its bracket. -/
theorem reads_items (n room : Nat) (first : Bool) {ts : List Tree} (rest : List Char)
    (ht : Tree.DistinctAll ts) (hfloat : Tree.anyFloat ts = false)
    (hn : (itemsFrom first ts).length + 1 ≤ n) :
    Reads rest (Tree.depthAll ts ≤ room) (fun js => js.map Json.tree = ts)
      (items n room first (itemsFrom first ts ++ ']' :: rest)) := by
  obtain ⟨n, rfl⟩ : ∃ m, n = m + 1 := Nat.exists_eq_succ_of_ne_zero (by omega)
  cases ts with
  | nil =>
    rw [items, nextItem_nil]
    exact .ok (Nat.zero_le _) rfl
  | cons t ts =>
    obtain ⟨htfloat, htsfloat⟩ := Bool.or_eq_false_iff.1 hfloat
    have hlength : t.compact.length + (itemsFrom false ts).length ≤ n := by
      cases first <;> simp [itemsFrom_true_cons, itemsFrom_false_cons] at hn <;> omega
    have hpos : 0 < t.compact.length := by
      obtain ⟨c, s, hcs, -⟩ := t.exists_compact htfloat
      simp [hcs]
    have hvalue := reads_value n room ht.1 htfloat (by omega)
      (endsNumber_items ts rest)
    have hitems := reads_items n room false rest ht.2 htsfloat (by omega)
    rw [items, nextItem_cons first htfloat]
    rcases hvalue with ⟨hfits, j, hj, rfl⟩ | ⟨hdeep, left, hj⟩
    · simp only [hj]
      refine hitems.map (f := fun js => j :: js) ?_ ?_
      · rw [Tree.depthAll, Nat.max_le, and_iff_right hfits]
      · rintro js rfl
        rfl
    · simp only [hj]
      refine .inr ⟨?_, left, rfl⟩
      rw [Tree.depthAll, Nat.max_le]
      exact fun h => hdeep h.1

/-- The members of an object are read back up to its brace. -/
theorem reads_members (n room : Nat) (first : Bool) {o : Object} {ms : List (String × Tree)}
    (rest : List Char) (hkeys : (o.toList.map Prod.fst ++ ms.map Prod.fst).Nodup)
    (ht : Tree.DistinctMembers ms) (hfloat : Tree.anyFloatMember ms = false)
    (hn : (membersFrom first ms).length + 1 ≤ n) :
    Reads rest (Tree.depthMembers ms ≤ room) (fun p => p.trees = o.trees ++ ms)
      (members n room first o (membersFrom first ms ++ '}' :: rest)) := by
  obtain ⟨n, rfl⟩ : ∃ m, n = m + 1 := Nat.exists_eq_succ_of_ne_zero (by omega)
  cases ms with
  | nil =>
    rw [members, nextKey_nil]
    exact .ok (Nat.zero_le _) (List.append_nil _).symm
  | cons m ms =>
    obtain ⟨k, t⟩ := m
    obtain ⟨htfloat, hmsfloat⟩ := Bool.or_eq_false_iff.1 hfloat
    have hlength : (quote k).length + t.compact.length + (membersFrom false ms).length + 1 ≤ n := by
      cases first <;> simp [membersFrom_true_cons, membersFrom_false_cons] at hn <;> omega
    have hvalue := reads_value n room ht.1 htfloat (by omega)
      (endsNumber_members ms rest)
    rw [members, nextKey_cons (by omega)]
    simp only [colon_cons, String.ofList_toList]
    rcases hvalue with ⟨hfits, j, hj, rfl⟩ | ⟨hdeep, left, hj⟩
    · simp only [hj]
      have hk : k ∉ o.toList.map Prod.fst := fun hmem =>
        (List.nodup_append.1 hkeys).2.2 k hmem k List.mem_cons_self rfl
      have hinsert := Object.toList_insert_of_notMem hk j
      have hkeys' : ((o.insert k j).toList.map Prod.fst ++ ms.map Prod.fst).Nodup := by
        rw [hinsert, List.map_append, List.append_assoc]
        exact hkeys
      have hmembers := reads_members n room false rest hkeys' ht.2 hmsfloat (by omega)
      have htrees : (o.insert k j).trees ++ ms = o.trees ++ (k, j.tree) :: ms := by
        rw [Object.trees, hinsert, List.map_append, List.append_assoc]
        rfl
      rw [htrees] at hmembers
      rwa [Tree.depthMembers, Nat.max_le, and_iff_right hfits]
    · simp only [hj]
      refine .inr ⟨?_, left, rfl⟩
      rw [Tree.depthMembers, Nat.max_le]
      exact fun h => hdeep h.1

end

/-! ## Whole texts -/

theorem toList_compact (j : Json) : j.compact.toList = j.tree.compact := String.toList_ofList

theorem toList_compact_object (o : Object) :
    (object o).compact.toList = '{' :: (Tree.compactMembers o.trees ++ ['}']) :=
  toList_compact _

theorem Fault.cause_locate (s : List Char) (f : Fault) : (f.locate s).cause = f.cause := rfl

/-- A document is read back from the whole of its text. -/
theorem reads_document {j : Json} (h : j.IsFloatFree) :
    Reads [] (j.depth ≤ maxDepth) (fun i => i.tree = j.tree)
      (value (stepsFor j.tree.compact) maxDepth j.tree.compact) := by
  have hsteps : j.tree.compact.length ≤ stepsFor j.tree.compact := by
    rw [stepsFor]
    omega
  have hend : EndsNumber [] := fun c hc => by cases hc
  have hreads := reads_value _ maxDepth j.distinct h hsteps hend
  rwa [List.append_nil] at hreads

/-- A value without doubles that nests no deeper than a text may is read from its compact text. -/
theorem read_compact {j : Json} (hfloat : j.IsFloatFree) (hdepth : j.depth ≤ maxDepth) :
    read j.compact = .ok j := by
  have hdocument : document j.tree.compact = .ok j := by
    rcases reads_document hfloat with ⟨-, i, hi, htree⟩ | ⟨hdeep, -⟩
    · rw [document, hi, Json.ext htree]
      rfl
    · exact absurd hdepth hdeep
  rw [read, toList_compact, hdocument]
  rfl

/-- A value without doubles that nests deeper than a text may is refused for its depth. -/
theorem read_compact_of_lt_depth {j : Json} (hfloat : j.IsFloatFree) (hdepth : maxDepth < j.depth) :
    ∃ e, read j.compact = .error e ∧ e.cause = .tooDeep := by
  rcases reads_document hfloat with ⟨hfits, -⟩ | ⟨-, left, hleft⟩
  · exact absurd hfits (Nat.not_le.2 hdepth)
  · refine ⟨Fault.locate j.tree.compact ⟨.tooDeep, left⟩, ?_, Fault.cause_locate _ _⟩
    rw [read, toList_compact, document, hleft]
    rfl

end Credentials.Json
