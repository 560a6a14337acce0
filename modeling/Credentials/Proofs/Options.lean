import Credentials.Options.Reader
import Credentials.Proofs.Json.ReadBack

/-!
# Written options are read back up to milliseconds

The document of options lists the settings that are made, and a reader puts them back one after the
other (`membersFrom_settings`): a path as it was, a timeout without what is less than a millisecond and
without the milliseconds that take more than 64 bits (`Kept`). What is kept of a timeout is kept of it
again, so that a second reading changes nothing. Main statement: `written_options_read_back`.
-/

namespace Credentials

/-! ## Durations -/

namespace Duration

/-- A duration is known by its length. -/
theorem toNanos_injective {d d' : Duration} (h : d.toNanos = d'.toNanos) : d = d' := by
  obtain ⟨seconds, nanos, _, hnanos⟩ := d
  obtain ⟨seconds', nanos', _, hnanos'⟩ := d'
  unfold toNanos at h
  simp only at h
  obtain rfl : seconds = seconds' := by omega
  obtain rfl : nanos = nanos' := by omega
  rfl

theorem millis_eq (d : Duration) : d.millis = d.toNanos / 1000000 := by
  unfold millis toNanos
  omega

theorem toNanos_ofMillis {n : Nat} (h : n < 2 ^ 64) : (ofMillis n h).toNanos = n * 1000000 := by
  unfold ofMillis toNanos
  simp only
  omega

end Duration

namespace Options

open Json

/-- What a document keeps of a timeout. -/
def Kept (d d' : Duration) : Prop := d'.toNanos = d.toNanos / 1000000 % 2 ^ 64 * 1000000

/-- The timeout is a whole number of milliseconds that fits in 64 bits. -/
def InMillis (d : Duration) : Prop := ∃ n < 2 ^ 64, d.toNanos = n * 1000000

theorem toNanos_truncate (d : Duration) :
    (truncate d).toNanos = d.toNanos / 1000000 % 2 ^ 64 * 1000000 := by
  rw [truncate, Duration.toNanos_ofMillis, millisOf, Duration.millis_eq]

/-- A timeout is kept as it is if it is a number of whole milliseconds below 2⁶⁴. -/
theorem truncate_eq_self_iff {d : Duration} : truncate d = d ↔ InMillis d := by
  constructor
  · intro h
    refine ⟨millisOf d, millisOf_lt d, ?_⟩
    rw [← Duration.toNanos_ofMillis (millisOf_lt d), ← truncate, h]
  · rintro ⟨n, hn, hd⟩
    apply Duration.toNanos_injective
    rw [toNanos_truncate, hd]
    omega

/-- A timeout that was kept once is kept as it is. -/
theorem truncate_truncate (d : Duration) : truncate (truncate d) = truncate d :=
  truncate_eq_self_iff.2 ⟨_, Nat.mod_lt _ (by decide), toNanos_truncate d⟩

/-! ## Settings -/

/-- An option that is set. -/
inductive Setting
  | connectionTimeout (d : Duration)
  | readTimeout (d : Duration)
  | certificateFiles (paths : List String)

def Setting.key : Setting → String
  | connectionTimeout _ => "connection_timeout_ms"
  | readTimeout _ => "read_timeout_ms"
  | certificateFiles _ => "ca_cert_files"

def Setting.json : Setting → Json
  | connectionTimeout d | readTimeout d => millisJson d
  | certificateFiles paths => .array (paths.map .string)

def settings (o : Options) : List Setting :=
  (o.connectionTimeout.map .connectionTimeout).toList ++
    (o.readTimeout.map .readTimeout).toList ++ (o.certificateFiles.map .certificateFiles).toList

/-- Adds what a reader makes of a setting. -/
def Members.set (m : Members) : Setting → Members
  | .connectionTimeout d => { m with connectionTimeout := some (some (truncate d)) }
  | .readTimeout d => { m with readTimeout := some (some (truncate d)) }
  | .certificateFiles paths => { m with certificateFiles := some (some paths) }

/-- The option is not among the members that were read. -/
def Members.Lacks (m : Members) : Setting → Prop
  | .connectionTimeout _ => m.connectionTimeout = none
  | .readTimeout _ => m.readTimeout = none
  | .certificateFiles _ => m.certificateFiles = none

theorem Members.Lacks.set {m : Members} {x y : Setting} (h : m.Lacks y) (hne : x.key ≠ y.key) :
    (m.set x).Lacks y := by
  cases x <;> cases y
  all_goals first | exact absurd rfl hne | exact h

theorem settings_pairwise (o : Options) : o.settings.Pairwise fun x y => x.key ≠ y.key := by
  obtain ⟨connection, reading, paths⟩ := o
  cases connection <;> cases reading <;> cases paths <;> simp [settings, Setting.key]

theorem length_settings_le (o : Options) : o.settings.length ≤ 3 := by
  obtain ⟨connection, reading, paths⟩ := o
  cases connection <;> cases reading <;> cases paths <;> simp [settings]

theorem toList_text (o : Options) :
    o.text.toList =
      '{' :: (Json.membersFrom true (o.settings.map fun x => (x.key, x.json.tree)) ++ ['}']) := by
  rw [text, toJson, Json.ofFields, toList_compact_object, Object.trees,
    Object.toList_ofFields (by simp)]
  obtain ⟨connection, reading, paths⟩ := o
  cases connection <;> cases reading <;> cases paths <;> rfl

/-! ## Timeouts -/

theorem timeout_digit {c : Char} (h : c.isDigit = true) (s : List Char) :
    timeout (c :: s) = durationOf (numberFrom false (c :: s)) := by
  rw [timeout, skipBlanks_cons (Tree.opens_of_isDigit h).1]
  split
  case h_3 heq =>
    obtain ⟨rfl, rfl⟩ := List.cons.inj heq
    rw [if_pos h]
  all_goals
    rename_i heq
    cases heq <;> exact absurd h (by decide)

/-- A written timeout is read up to where nothing goes on with its number. -/
theorem timeout_millisJson (d : Duration) {rest : List Char} (hrest : EndsNumber rest) :
    timeout ((millisJson d).tree.compact ++ rest) = .ok (some (truncate d), rest) := by
  obtain ⟨n, hn, hval⟩ : ∃ n : Integer, millisJson d = .number (.integer n) ∧ n.val = millisOf d :=
    ⟨_, rfl, rfl⟩
  have htext : (millisJson d).tree.compact = Nat.toDigits 10 (millisOf d) := by
    rw [hn]
    refine (Tree.toList_text_integer n).trans ?_
    rw [hval, if_neg (by omega), Int.natAbs_natCast]
  have hread : numberFrom false (Nat.toDigits 10 (millisOf d) ++ rest) = .ok (.integer n, rest) :=
    numberFrom_toDigits hval nofun hrest
  have hduration : duration? (.integer n) = some (truncate d) := by
    simp only [duration?, hval, Int.natCast_nonneg, if_true, truncate, Int.toNat_natCast]
  obtain ⟨c, cs, hdigits, -⟩ := exists_toDigits (millisOf d)
  have hc : c.isDigit = true :=
    isDigit_of_mem_toDigits (show c ∈ Nat.toDigits 10 (millisOf d) by simp [hdigits])
  rw [htext]
  rw [hdigits, List.cons_append] at hread ⊢
  rw [timeout_digit hc, hread, durationOf]
  simp only [hduration]

/-! ## Paths -/

theorem paths_items {n : Nat} (first : Bool) {fs : List String} (rest : List Char)
    (hn : (itemsFrom first (fs.map Tree.string)).length < n) :
    paths n first (itemsFrom first (fs.map Tree.string) ++ ']' :: rest) = .ok (fs, rest) := by
  induction fs generalizing n first with
  | nil =>
    obtain ⟨n, rfl⟩ := Nat.exists_eq_succ_of_ne_zero (Nat.ne_zero_of_lt hn)
    rw [List.map_nil, paths, nextItem_nil]
  | cons f fs ih =>
    obtain ⟨n, rfl⟩ := Nat.exists_eq_succ_of_ne_zero (Nat.ne_zero_of_lt hn)
    have hrest : (itemsFrom false (fs.map Tree.string)).length < n := by
      cases first <;>
        simp only [List.map_cons, itemsFrom_true_cons, itemsFrom_false_cons, Tree.compact, quote,
          List.length_append, List.length_cons] at hn <;> omega
    rw [List.map_cons, paths, nextItem_cons first (t := .string f) rfl, Tree.compact, quote_append]
    simp only
    rw [chars_quote ?_]
    · simp only [ih false hrest, Except.map, String.ofList_toList]
    · simp only [quote, List.length_append, List.length_cons, List.length_nil]
      omega

theorem files_array (fs : List String) (rest : List Char) :
    files ((Json.array (fs.map .string)).tree.compact ++ rest) = .ok (some fs, rest) := by
  have htree : (Json.array (fs.map .string)).tree = .array (fs.map Tree.string) := by
    change Tree.array ((fs.map Json.string).map Json.tree) = _
    rw [List.map_map]
    rfl
  have htext : (Json.array (fs.map .string)).tree.compact ++ rest =
      '[' :: (itemsFrom true (fs.map Tree.string) ++ ']' :: rest) := by
    rw [htree]
    simp [Tree.compact, itemsFrom]
  have hsteps : (itemsFrom true (fs.map Tree.string)).length <
      (itemsFrom true (fs.map Tree.string) ++ ']' :: rest).length + 1 := by
    rw [List.length_append]
    omega
  rw [htext, files, skipBlanks_cons (by decide)]
  simp only [paths_items true rest hsteps, Except.map]

/-! ## Members -/

/-- A setting is put back when it is read behind its key for the first time. -/
theorem member_setting (n : Nat) {m : Members} {x : Setting} (h : m.Lacks x) {rest : List Char}
    (hrest : EndsNumber rest) :
    member n m x.key (':' :: (x.json.tree.compact ++ rest)) = .ok (m.set x, rest) := by
  have hreading : "read_timeout_ms" ≠ "connection_timeout_ms" := by decide
  have hpaths : "ca_cert_files" ≠ "connection_timeout_ms" ∧ "ca_cert_files" ≠ "read_timeout_ms" := by
    decide
  unfold member
  cases x with
  | connectionTimeout d =>
    simp only [Setting.key, Setting.json, if_true, show m.connectionTimeout = none from h, colon_cons,
      timeout_millisJson d hrest, Option.isSome_none, Bool.false_eq_true, if_false, Except.map,
      Members.set]
  | readTimeout d =>
    simp only [Setting.key, Setting.json, if_true, show m.readTimeout = none from h, colon_cons,
      timeout_millisJson d hrest, Option.isSome_none, Bool.false_eq_true, if_false, Except.map,
      Members.set, hreading]
  | certificateFiles fs =>
    simp only [Setting.key, Setting.json, if_true, show m.certificateFiles = none from h, colon_cons,
      files_array, Option.isSome_none, Bool.false_eq_true, if_false, Except.map, Members.set,
      hpaths.1, hpaths.2]

theorem membersFrom_settings {n : Nat} (first : Bool) {m : Members} {xs : List Setting}
    (rest : List Char) (hkeys : xs.Pairwise fun x y => x.key ≠ y.key) (hlacks : ∀ x ∈ xs, m.Lacks x)
    (hn : xs.length < n) :
    membersFrom n first m
        (Json.membersFrom first (xs.map fun x => (x.key, x.json.tree)) ++ '}' :: rest) =
      .ok (xs.foldl Members.set m, rest) := by
  induction xs generalizing n first m with
  | nil =>
    obtain ⟨n, rfl⟩ := Nat.exists_eq_succ_of_ne_zero (Nat.ne_zero_of_lt hn)
    rw [List.map_nil, membersFrom, nextKey_nil]
    rfl
  | cons x xs ih =>
    obtain ⟨n, rfl⟩ := Nat.exists_eq_succ_of_ne_zero (Nat.ne_zero_of_lt hn)
    obtain ⟨hx, hkeys⟩ := List.pairwise_cons.1 hkeys
    obtain ⟨hlack, hlacks⟩ := List.forall_mem_cons.1 hlacks
    have hrest := endsNumber_members (xs.map fun x => (x.key, x.json.tree)) rest
    have hlater : ∀ y ∈ xs, (m.set x).Lacks y := fun y hy => (hlacks y hy).set (hx y hy)
    rw [List.map_cons, membersFrom, nextKey_cons ?_]
    · simp only [String.ofList_toList, member_setting (n + 1) hlack hrest]
      exact ih false hkeys hlater (by simpa using hn)
    · cases first <;>
        simp only [membersFrom_true_cons, membersFrom_false_cons, List.length_append,
          List.length_cons] <;> omega

/-! ## Documents -/

/-- The options as a document keeps them. -/
def kept (o : Options) : Options :=
  ⟨o.connectionTimeout.map truncate, o.readTimeout.map truncate, o.certificateFiles⟩

/-- The settings of options, one after the other, give what is kept of them. -/
theorem options_settings (o : Options) : (o.settings.foldl Members.set {}).options = o.kept := by
  obtain ⟨connection, reading, paths⟩ := o
  cases connection <;> cases reading <;> cases paths <;> rfl

/-- The text of options is read as what is kept of them. -/
theorem read_text (o : Options) : read o.text = .ok o.kept := by
  have hlacks : ∀ x ∈ o.settings, ({} : Members).Lacks x := by
    intro x _
    cases x <;> rfl
  have hsteps (s : List Char) : o.settings.length < stepsFor ('{' :: s) := by
    have hlength := o.length_settings_le
    rw [stepsFor, List.length_cons]
    omega
  have hdocument : document o.text.toList = .ok o.kept := by
    rw [toList_text, document, skipBlanks_cons (by decide)]
    simp only [membersFrom_settings true [] o.settings_pairwise hlacks (hsteps _), options_settings]
    rfl
  rw [read, hdocument]
  rfl

/-- Options are read back from their text. Each timeout that is set is kept up to milliseconds, of which
only the remainder by 2⁶⁴ is written, and everything else is kept as it is; so nothing changes exactly
if the timeouts are whole milliseconds that fit in 64 bits, and never when options were read before. -/
theorem written_options_read_back (o : Options) :
    ∃ o', read o.text = .ok o' ∧
      Option.Rel Kept o.connectionTimeout o'.connectionTimeout ∧
      Option.Rel Kept o.readTimeout o'.readTimeout ∧
      o'.certificateFiles = o.certificateFiles ∧
      (o' = o ↔ (∀ d ∈ o.connectionTimeout, InMillis d) ∧ ∀ d ∈ o.readTimeout, InMillis d) ∧
      read o'.text = .ok o' := by
  have hrel (timeout : Option Duration) : Option.Rel Kept timeout (timeout.map truncate) := by
    cases timeout with
    | none => exact .none
    | some d => exact .some (toNanos_truncate d)
  have hself (timeout : Option Duration) :
      timeout.map truncate = timeout ↔ ∀ d ∈ timeout, InMillis d := by
    cases timeout with
    | none => simp
    | some d => simp [truncate_eq_self_iff]
  have htwice (timeout : Option Duration) :
      (timeout.map truncate).map truncate = timeout.map truncate := by
    rw [Option.map_map]
    exact congrFun (congrArg _ (funext truncate_truncate)) _
  refine ⟨o.kept, o.read_text, hrel _, hrel _, rfl, ?_, ?_⟩
  · obtain ⟨connection, reading, paths⟩ := o
    simp only [kept, Options.mk.injEq, hself, and_true]
  · rw [read_text]
    simp only [kept, htwice]

end Options

end Credentials
