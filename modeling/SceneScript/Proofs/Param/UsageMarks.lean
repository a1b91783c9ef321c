import Mathlib.Data.List.Basic
import Mathlib.Data.List.Induction
import SceneScript.Proofs.Param.Places

/-!
# The parameters that nobody asked for

A dictionary marks the entry that a lookup returns, drops the mark of an entry that is renamed, and
reports the entries without a mark. So after any history the marks say exactly what was returned at
which place (`Contents.tracks_after`), and the report lists, in the old order, the parameters that
are left, are not allowed to stay unused, and were not returned (`unused_report_is_exact`).

Places are compared by their order only within one of the two lists of a dictionary. What a step
does is therefore said of one list first, by the indices of its places, and then of both.
-/

set_option autoImplicit false

namespace SceneScript

open Dictionary (Step)

/-! ## Lists of entries

One list of a dictionary at a time: the indices of its places, what is left at each, and which of
them are marked. -/

namespace Dictionary

variable {α : Type} {wanted : Param α → Bool} {is : List Nat} {left : Nat → Option (Param α)}
  {left' : Nat → Option (Param α)} {mark mark' : Nat → Bool}

/-- The entries of what is left at places of one list. -/
def entriesAt (is : List Nat) (left : Nat → Option (Param α)) (mark : Nat → Bool) :
    List (DictEntry α) :=
  is.filterMap fun i => (left i).map fun p => ⟨p, mark i⟩

theorem entriesAt_congr
    (same : ∀ i ∈ is, ∀ p, left i = some p → (mark' i = true ↔ mark i = true)) :
    entriesAt is left mark = entriesAt is left mark' := by
  apply List.filterMap_congr
  intro i hi
  cases there : left i with
  | none => rfl
  | some p => rw [Option.map_some, Option.map_some, Bool.eq_iff_iff.2 (same i hi p there)]

theorem entriesAt_cons_of_none {i : Nat} (gone : left i = none) :
    entriesAt (i :: is) left mark = entriesAt is left mark :=
  List.filterMap_cons_none (by rw [gone, Option.map_none])

theorem entriesAt_cons_of_some {i : Nat} {p : Param α} (there : left i = some p) :
    entriesAt (i :: is) left mark = ⟨p, mark i⟩ :: entriesAt is left mark :=
  List.filterMap_cons_some (by rw [there, Option.map_some])

theorem all_entriesAt_iff : (∀ e ∈ entriesAt is left mark, wanted e.param = false) ↔
    ∀ i ∈ is, ∀ p, left i = some p → wanted p = false := by
  simp only [entriesAt, List.mem_filterMap, Option.map_eq_some_iff]
  constructor
  · intro none i hi p there
    exact none ⟨p, mark i⟩ ⟨i, hi, p, there, rfl⟩
  · rintro none e ⟨i, hi, p, there, rfl⟩
    exact none i hi p there

/-- New entries, each found at its place. -/
theorem map_eq_entriesAt {ps : List (Param α)} (placed : ∀ i < ps.length, left i = ps[i]?)
    (unmarked : ∀ i, mark i = false) :
    ps.map ({ param := · }) = entriesAt (List.range ps.length) left mark := by
  induction ps using List.reverseRecOn with
  | nil => rfl
  | append_singleton ps p ih =>
    rw [List.length_append, List.length_singleton] at placed ⊢
    have front := ih fun i bound => by
      rw [placed i (by omega), List.getElem?_append_left bound]
    have last : left ps.length = some p := by
      rw [placed _ (by omega), List.getElem?_concat_length]
    rw [List.range_succ, List.map_append, front, entriesAt, entriesAt, List.filterMap_append,
      List.filterMap_cons_some (by rw [last, Option.map_some]), unmarked]
    rfl

/-! ### Marking -/

/-- A list of entries after a lookup in it. -/
def marked (wanted : Param α → Bool) (es : List (DictEntry α)) : List (DictEntry α) :=
  ((markLast wanted es).map (·.2)).getD es

theorem markLast_eq_none_iff {es : List (DictEntry α)} :
    markLast wanted es = none ↔ ∀ e ∈ es, wanted e.param = false := by
  rw [← Option.map_eq_none_iff (f := Prod.fst), map_fst_markLast, List.find?_eq_none]
  simp

/-- An entry is marked if it is asked for and none behind it is. -/
theorem marked_cons (e : DictEntry α) (rest : List (DictEntry α)) :
    marked wanted (e :: rest) =
      { e with used := e.used || (wanted e.param && rest.all fun r => !wanted r.param) } ::
        marked wanted rest := by
  unfold marked
  rw [markLast]
  cases found : markLast wanted rest with
  | some pair =>
    have later : (rest.all fun r => !wanted r.param) = false := by
      apply Bool.eq_false_iff.2
      intro missing
      have unasked : ∀ r ∈ rest, wanted r.param = false := by simpa using missing
      rw [markLast_eq_none_iff.2 unasked] at found
      cases found
    simp [later]
  | none =>
    have last : (rest.all fun r => !wanted r.param) = true := by
      simpa using markLast_eq_none_iff.1 found
    cases asked : wanted e.param <;> simp [last]

theorem own_lookup (d : Dictionary α) : (d.lookup wanted).2.own = marked wanted d.own := by
  rw [lookup, marked]
  cases markLast wanted d.own with
  | some found => rfl
  | none => cases markLast wanted d.inherited <;> rfl

/-- If no own parameter is asked for, the inherited ones are looked through. -/
theorem inherited_lookup_of_none {d : Dictionary α}
    (none : ∀ e ∈ d.own, wanted e.param = false) :
    (d.lookup wanted).2.inherited = marked wanted d.inherited := by
  rw [lookup, marked, markLast_eq_none_iff.2 none]
  cases markLast wanted d.inherited <;> rfl

theorem inherited_lookup_of_some {d : Dictionary α}
    (some : ¬ ∀ e ∈ d.own, wanted e.param = false) :
    (d.lookup wanted).2.inherited = d.inherited := by
  obtain ⟨found, last⟩ := Option.ne_none_iff_exists'.1 (markLast_eq_none_iff.not.2 some)
  rw [lookup, last]

/-- In one list, a lookup marks the entry at the last place that is asked for. -/
theorem marked_entriesAt (sorted : is.Pairwise (· < ·))
    (marks : ∀ i ∈ is, ∀ p, left i = some p → (mark' i = true ↔ mark i = true ∨
      (wanted p = true ∧ ∀ j ∈ is, i < j → ∀ r, left j = some r → wanted r = false))) :
    marked wanted (entriesAt is left mark) = entriesAt is left mark' := by
  -- `marks` for the rest of the places follows, since the first one is before all of them
  induction is with
  | nil => rfl
  | cons i rest ih =>
    obtain ⟨first, sorted⟩ := List.pairwise_cons.1 sorted
    have others := ih sorted fun j hj p there => by
      rw [marks j (List.mem_cons_of_mem i hj) p there, List.forall_mem_cons]
      have behind : ¬ j < i := Nat.lt_asymm (first j hj)
      simp only [behind, false_implies, true_and]
    cases there : left i with
    | none => rw [entriesAt_cons_of_none there, entriesAt_cons_of_none there, others]
    | some p =>
      rw [entriesAt_cons_of_some there, entriesAt_cons_of_some there, marked_cons, others]
      congr 2
      rw [Bool.eq_iff_iff, marks i List.mem_cons_self p there, Bool.or_eq_true, Bool.and_eq_true,
        List.all_eq_true]
      simp only [Bool.not_eq_true', all_entriesAt_iff, List.forall_mem_cons, Nat.lt_irrefl,
        false_implies, true_and]
      refine or_congr_right (and_congr_right fun _ => forall₂_congr fun j hj => ?_)
      simp only [first j hj, true_implies]

/-! ### Edits -/

/-- A removal drops what it goes by, and leaves the marks of the rest. -/
theorem filter_entriesAt (q : Question)
    (acts : ∀ i, left' i = (left i).bind (Step.act (.remove q))) :
    (entriesAt is left mark).filter (fun e => !q.wants e.param) = entriesAt is left' mark := by
  rw [entriesAt, List.filter_filterMap]
  apply List.filterMap_congr
  intro i _
  rw [acts]
  cases left i with
  | none => rfl
  | some p => cases asked : q.wants p <;> simp [Step.act, asked, Option.filter]

/-- A renaming takes the marks away from what it gives a name. -/
theorem map_renameEntry_entriesAt {before after : String}
    (acts : ∀ i, left' i = (left i).bind (Step.act (.rename before after)))
    (marks : ∀ i ∈ is, ∀ p, left i = some p →
      (mark' i = true ↔ mark i = true ∧ p.name ≠ before)) :
    (entriesAt is left mark).map (renameEntry before after) = entriesAt is left' mark' := by
  rw [entriesAt, List.map_filterMap]
  apply List.filterMap_congr
  intro i hi
  rw [acts]
  cases there : left i with
  | none => rfl
  | some p =>
    have exact := marks i hi p there
    by_cases named : p.name = before
    · have unmarked : mark' i = false := by simpa [named] using exact
      simp [Step.act, renameEntry, Param.renamed, named, unmarked]
    · have kept : mark' i = mark i := by
        rw [Bool.eq_iff_iff, exact, and_iff_left named]
      simp [Step.act, renameEntry, Param.renamed, named, kept]

/-! ### Reading -/

theorem map_param_entriesAt : (entriesAt is left mark).map (·.param) = is.filterMap left := by
  rw [entriesAt, List.map_filterMap]
  apply List.filterMap_congr
  intro i _
  cases left i <;> rfl

theorem find?_reverse_filterMap_eq_none_iff :
    (is.filterMap left).reverse.find? wanted = none ↔
      ∀ i ∈ is, ∀ p, left i = some p → wanted p = false := by
  -- what marks the entries have does not matter
  have params : (entriesAt is left fun _ => false).map (·.param) = is.filterMap left :=
    map_param_entriesAt
  rw [← params, ← map_fst_markLast, Option.map_eq_none_iff, markLast_eq_none_iff,
    all_entriesAt_iff]

/-- In one list, the parameter at the last place that is asked for is found. -/
theorem find?_reverse_filterMap_iff {p : Param α} (sorted : is.Pairwise (· < ·)) :
    (is.filterMap left).reverse.find? wanted = some p ↔ ∃ i ∈ is, left i = some p ∧
      wanted p = true ∧ ∀ j ∈ is, i < j → ∀ r, left j = some r → wanted r = false := by
  induction is with
  | nil => simp
  | cons i rest ih =>
    obtain ⟨first, sorted⟩ := List.pairwise_cons.1 sorted
    have behind : (∃ j ∈ rest, left j = some p ∧ wanted p = true ∧
        ∀ k ∈ i :: rest, j < k → ∀ r, left k = some r → wanted r = false) ↔
        (rest.filterMap left).reverse.find? wanted = some p := by
      rw [ih sorted]
      refine exists_congr fun j => and_congr_right fun hj => ?_
      simp only [List.forall_mem_cons, Nat.lt_asymm (first j hj), false_implies, true_and]
    rw [List.exists_mem_cons_iff, behind]
    simp only [List.forall_mem_cons, Nat.lt_irrefl, false_implies, true_and]
    cases there : left i with
    | none => simp [there]
    | some p' =>
      rw [List.filterMap_cons_some there, List.reverse_cons, List.find?_append,
        Option.or_eq_some_iff, find?_reverse_filterMap_eq_none_iff, List.find?_singleton,
        Option.ite_none_right_eq_some, Option.some.injEq, or_comm]
      refine or_congr_left ?_
      constructor
      · rintro ⟨last, wanted, rfl⟩
        exact ⟨rfl, wanted, fun j hj _ => last j hj⟩
      · rintro ⟨rfl, wanted, last⟩
        exact ⟨fun j hj => last j hj (first j hj), wanted, rfl⟩

/-- Of one list, the entries are reported that have no mark and must not stay unused. -/
theorem map_unused_entriesAt :
    ((entriesAt is left mark).filter fun e => !e.param.unusedAllowed && !e.used).map
        (fun e => some e.param) =
      (is.filter fun i => (left i).any fun p => !p.unusedAllowed && !mark i).map left := by
  induction is with
  | nil => rfl
  | cons i rest ih =>
    cases there : left i with
    | none => simpa [entriesAt_cons_of_none there, there] using ih
    | some p =>
      rw [entriesAt_cons_of_some there, List.filter_cons, List.filter_cons, there, Option.any_some]
      split
      · rw [List.map_cons, List.map_cons, ih, there]
      · exact ih

end Dictionary

/-! ## What the marks say -/

namespace Contents

open Dictionary (entriesAt)

variable {α : Type} {c : Contents α} {steps : List Step} {q : Question} {place : Place}
  {p : Param α} {mark mark' : Place → Bool} {d : Dictionary α}

/-- The entries of a dictionary are what a history has left, in the old order and marked. -/
structure Tracks (c : Contents α) (steps : List Step) (mark : Place → Bool)
    (d : Dictionary α) : Prop where
  own : d.own = entriesAt (List.range c.own.length) (fun i => c.left? steps (.own i))
    (fun i => mark (.own i))
  inherited : d.inherited = entriesAt (List.range c.inherited.length)
    (fun i => c.left? steps (.inherited i)) (fun i => mark (.inherited i))

theorem mem_places_of_left? (there : c.left? steps place = some p) : place ∈ c.places := by
  obtain ⟨seed, placed, -⟩ := Option.bind_eq_some_iff.1 there
  cases place with
  | own i =>
    obtain ⟨bound, -⟩ := List.getElem?_eq_some_iff.1 placed
    simpa [places] using bound
  | inherited i =>
    obtain ⟨bound, -⟩ := List.getElem?_eq_some_iff.1 placed
    simpa [places] using bound

theorem mem_range_own {i : Nat} (there : c.left? steps (.own i) = some p) :
    i ∈ List.range c.own.length := by
  simpa [places] using mem_places_of_left? there

theorem mem_range_inherited {i : Nat} (there : c.left? steps (.inherited i) = some p) :
    i ∈ List.range c.inherited.length := by
  simpa [places] using mem_places_of_left? there

/-- An own parameter wins if no later own one is asked for. -/
theorem wins_own_iff {i : Nat} : c.Wins steps q (.own i) p ↔
    c.left? steps (.own i) = some p ∧ q.wants p = true ∧ ∀ j ∈ List.range c.own.length, i < j →
      ∀ r, c.left? steps (.own j) = some r → q.wants r = false := by
  constructor
  · rintro ⟨there, wanted, unrivalled⟩
    exact ⟨there, wanted, fun j _ later r => unrivalled (.own j) r (.own later)⟩
  · rintro ⟨there, wanted, last⟩
    refine ⟨there, wanted, ?_⟩
    rintro rival r ⟨later⟩ left
    exact last _ (mem_range_own left) later r left

/-- An inherited parameter wins if no own one and no later inherited one is asked for. -/
theorem wins_inherited_iff {i : Nat} : c.Wins steps q (.inherited i) p ↔
    (∀ j ∈ List.range c.own.length, ∀ r, c.left? steps (.own j) = some r → q.wants r = false) ∧
      c.left? steps (.inherited i) = some p ∧ q.wants p = true ∧
      ∀ j ∈ List.range c.inherited.length, i < j →
        ∀ r, c.left? steps (.inherited j) = some r → q.wants r = false := by
  constructor
  · rintro ⟨there, wanted, unrivalled⟩
    exact ⟨fun j _ r => unrivalled (.own j) r .ownFirst, there, wanted,
      fun j _ later r => unrivalled (.inherited j) r (.inherited later)⟩
  · rintro ⟨own, there, wanted, last⟩
    refine ⟨there, wanted, ?_⟩
    intro rival r outranks left
    cases outranks with
    | inherited later => exact last _ (mem_range_inherited left) later r left
    | ownFirst => exact own _ (mem_range_own left) r left

/-- After a history, a lookup answers with what wins. -/
theorem Tracks.find?_iff (tracks : Tracks c steps mark d) :
    d.contents.find? q.wants = some p ↔ ∃ place, c.Wins steps q place p := by
  have own : d.contents.own =
      (List.range c.own.length).filterMap fun i => c.left? steps (.own i) := by
    rw [Dictionary.contents, tracks.own, Dictionary.map_param_entriesAt]
  have inherited : d.contents.inherited =
      (List.range c.inherited.length).filterMap fun i => c.left? steps (.inherited i) := by
    rw [Dictionary.contents, tracks.inherited, Dictionary.map_param_entriesAt]
  rw [find?, Option.or_eq_some_iff, own, inherited, Dictionary.find?_reverse_filterMap_eq_none_iff,
    Dictionary.find?_reverse_filterMap_iff List.pairwise_lt_range,
    Dictionary.find?_reverse_filterMap_iff List.pairwise_lt_range]
  constructor
  · rintro (⟨i, -, wins⟩ | ⟨none, i, -, wins⟩)
    · exact ⟨.own i, wins_own_iff.2 wins⟩
    · exact ⟨.inherited i, wins_inherited_iff.2 ⟨none, wins⟩⟩
  · rintro ⟨place, wins⟩
    cases place with
    | own i => exact Or.inl ⟨i, mem_range_own wins.left, wins_own_iff.1 wins⟩
    | inherited i =>
      obtain ⟨none, last⟩ := wins_inherited_iff.1 wins
      exact Or.inr ⟨none, i, mem_range_inherited wins.left, last⟩

/-- Whether a place wins depends on what is left there. -/
theorem exists_wins_iff (there : c.left? steps place = some p) :
    (∃ p, c.Wins steps q place p) ↔ c.Wins steps q place p := by
  refine ⟨?_, fun wins => ⟨p, wins⟩⟩
  rintro ⟨p', wins⟩
  obtain rfl := Option.some.inj (there.symm.trans wins.left)
  exact wins

/-- A lookup marks what wins, and nothing else. -/
theorem Tracks.ask (tracks : Tracks c steps mark d)
    (marks : ∀ place, mark' place = true ↔ mark place = true ∨ ∃ p, c.Wins steps q place p) :
    Tracks c (steps ++ [.ask q]) mark' (d.lookup q.wants).2 := by
  have same (place : Place) : c.left? (steps ++ [.ask q]) place = c.left? steps place := by
    rw [left?_concat]
    exact Option.bind_fun_some _
  constructor
  · rw [Dictionary.own_lookup, tracks.own]
    simp only [same]
    apply Dictionary.marked_entriesAt List.pairwise_lt_range
    intro i _ p there
    rw [marks, exists_wins_iff there, wins_own_iff, and_iff_right there]
  · by_cases none : ∀ e ∈ d.own, q.wants e.param = false
    · rw [Dictionary.inherited_lookup_of_none none, tracks.inherited]
      rw [tracks.own, Dictionary.all_entriesAt_iff] at none
      simp only [same]
      apply Dictionary.marked_entriesAt List.pairwise_lt_range
      intro i _ p there
      rw [marks, exists_wins_iff there, wins_inherited_iff, and_iff_right none,
        and_iff_right there]
    · -- an own parameter wins, so no inherited one does
      rw [Dictionary.inherited_lookup_of_some none, tracks.inherited]
      rw [tracks.own, Dictionary.all_entriesAt_iff] at none
      simp only [same]
      apply Dictionary.entriesAt_congr
      intro i _ p there
      rw [marks, exists_wins_iff there, wins_inherited_iff, or_iff_left]
      exact fun wins => none wins.1

/-- A removal leaves the marks of what is left. -/
theorem Tracks.remove (tracks : Tracks c steps mark d) :
    Tracks c (steps ++ [.remove q]) mark (d.removeWhere q.wants) where
  own := by
    rw [Dictionary.removeWhere, tracks.own]
    exact Dictionary.filter_entriesAt q fun i => left?_concat c steps _ (.own i)
  inherited := by
    rw [Dictionary.removeWhere, tracks.inherited]
    exact Dictionary.filter_entriesAt q fun i => left?_concat c steps _ (.inherited i)

/-- A renaming takes the mark from what it gives a name. -/
theorem Tracks.rename {old new : String} (tracks : Tracks c steps mark d)
    (marks : ∀ place p, c.left? steps place = some p →
      (mark' place = true ↔ mark place = true ∧ p.name ≠ old)) :
    Tracks c (steps ++ [.rename old new]) mark' (d.rename old new) where
  own := by
    rw [Dictionary.rename, tracks.own]
    exact Dictionary.map_renameEntry_entriesAt (fun i => left?_concat c steps _ (.own i))
      fun i _ => marks (.own i)
  inherited := by
    rw [Dictionary.rename, tracks.inherited]
    exact Dictionary.map_renameEntry_entriesAt (fun i => left?_concat c steps _ (.inherited i))
      fun i _ => marks (.inherited i)

/-- A dictionary marks exactly what was returned. -/
theorem tracks_after (c : Contents α) (steps : List Step)
    (exact : ∀ place, mark place = true ↔ c.Returned steps place) :
    Tracks c steps mark ((Dictionary.ofParams c.own c.colorSpace c.inherited).after steps) := by
  -- from the right: the marks before the last step are those of what was returned before it
  induction steps using List.reverseRecOn generalizing mark with
  | nil =>
    have unmarked (place : Place) : mark place = false :=
      Bool.eq_false_iff.2 fun marked => not_returned_nil c place ((exact place).1 marked)
    have here (place : Place) : c.left? [] place = c.placed? place := Option.bind_fun_some _
    exact ⟨Dictionary.map_eq_entriesAt (fun i _ => here (.own i)) fun i => unmarked (.own i),
      Dictionary.map_eq_entriesAt (fun i _ => here (.inherited i))
        fun i => unmarked (.inherited i)⟩
  | append_singleton steps s ih =>
    classical
    have exactly (place : Place) :
        decide (c.Returned steps place) = true ↔ c.Returned steps place := decide_eq_true_iff
    have tracks := ih exactly
    simp only [returned_concat_iff] at exact
    rw [Dictionary.after, List.foldl_concat]
    change Tracks c _ mark (Dictionary.step (Dictionary.after _ steps) s)
    cases s with
    | ask q =>
      apply tracks.ask
      intro place
      rw [exact, decide_eq_true_iff, or_comm]
      simp
    | remove q =>
      rw [Dictionary.step_remove]
      have same : (fun place => decide (c.Returned steps place)) = mark := by
        funext place
        rw [Bool.eq_iff_iff, exact, decide_eq_true_iff]
        simp
      exact same ▸ tracks.remove
    | rename old new =>
      apply tracks.rename
      intro place p there
      rw [exact, decide_eq_true_iff]
      simp [there]

/-- The places whose parameters are reported, if the marks are as given. -/
theorem Tracks.map_unused (tracks : Tracks c steps mark d) :
    d.unused.map some = (c.places.filter fun place =>
      (c.left? steps place).any fun p => !p.unusedAllowed && !mark place).map (c.left? steps) := by
  simp only [Dictionary.unused, Dictionary.entries, places, tracks.own, tracks.inherited,
    List.filter_append, List.map_append, List.map_map, List.filter_map]
  congr 1
  · exact Dictionary.map_unused_entriesAt
  · exact Dictionary.map_unused_entriesAt

end Contents

/-! ## Calls -/

namespace Dictionary

/-- What a dictionary may be asked or told. -/
inductive Call (α : Type) where
  | oneFloat (name : String) (default : α)
  | oneInt (name : String) (default : α)
  | oneBool (name : String) (default : Bool)
  | oneString (name default : String)
  | floats (name : String)
  | ints (name : String)
  | bools (name : String)
  | strings (name : String)
  | points2 (name : String)
  | points3 (name : String)
  | oneRGB (name : String)
  | blackbody (name : String)
  | texture (name : String)
  | hasColor (name : String)
  | locationOf (name : String)
  | definition (name : String)
  | listing (indent : Nat)
  | size
  | unused
  | remove (type name : String)
  | removeColor (name : String)
  | rename (before after : String)

variable {α : Type}

/-- The question or the edit that a call comes down to. The other calls look at a dictionary without
a lookup. -/
def Call.step? : Call α → Option Step
  | oneFloat name _ => some (.ask (.typed "float" name))
  | oneInt name _ => some (.ask (.typed "integer" name))
  | oneBool name _ => some (.ask (.typed "bool" name))
  | oneString name _ => some (.ask (.typed "string" name))
  | floats name => some (.ask (.typed "float" name))
  | ints name => some (.ask (.typed "integer" name))
  | bools name => some (.ask (.typed "bool" name))
  | strings name => some (.ask (.typed "string" name))
  | points2 name => some (.ask (.typed "point2" name))
  | points3 name => some (.ask (.typed "point3" name))
  | oneRGB name => some (.ask (.typed "rgb" name))
  | blackbody name => some (.ask (.typed "blackbody" name))
  | texture name => some (.ask (.typed "texture" name))
  | hasColor name => some (.ask (.color name))
  | locationOf _ | definition _ | listing _ | size | unused => none
  | remove type name => some (.remove (.typed type name))
  | removeColor name => some (.remove (.color name))
  | rename before after => some (.rename before after)

/-- The dictionary after a call. -/
def call (d : Dictionary α) : Call α → Dictionary α
  | .oneFloat name default => (d.oneFloat name default).2
  | .oneInt name default => (d.oneInt name default).2
  | .oneBool name default => (d.oneBool name default).2
  | .oneString name default => (d.oneString name default).2
  | .floats name => (d.floats name).2
  | .ints name => (d.ints name).2
  | .bools name => (d.bools name).2
  | .strings name => (d.strings name).2
  | .points2 name => (d.points2 name).2
  | .points3 name => (d.points3 name).2
  | .oneRGB name => (d.oneRGB name).2
  | .blackbody name => (d.blackbody name).2
  | .texture name => (d.texture name).2
  | .hasColor name => (d.hasColor name).2
  | .locationOf _ | .definition _ | .listing _ | .size | .unused => d
  | .remove type name => d.remove type name
  | .removeColor name => d.removeColor name
  | .rename before after => d.rename before after

theorem call_eq (d : Dictionary α) (call : Call α) :
    d.call call = match call.step? with
      | some s => d.step s
      | none => d := by
  cases call <;> rfl

/-- Calls leave what their questions and edits leave. -/
theorem foldl_call (d : Dictionary α) (calls : List (Call α)) :
    calls.foldl call d = d.after (calls.filterMap Call.step?) := by
  induction calls generalizing d with
  | nil => rfl
  | cons first rest ih =>
    rw [List.foldl_cons, ih, call_eq]
    cases step : first.step? with
    | none => rw [List.filterMap_cons_none step]
    | some s =>
      rw [List.filterMap_cons_some step]
      rfl

/-- Take any parameters of a dictionary's own, any inherited ones, and any calls in turn. The report
of unused parameters lists what is left at some of the places, in their order: at those where
something is left that is not allowed to stay unused, and that no lookup has returned since it was
made or last renamed. Here a lookup returns what it answers with, which is what is asked for at the
place of the highest rank.

So whatever is reported is reported until it is removed or a lookup returns it: in spite of lookups
that are answered from a place of higher rank, of edits, and of calls that make no lookup. -/
theorem unused_report_is_exact (own inherited : List (Param α)) (colorSpace : ColorSpace)
    (calls : List (Call α)) :
    let c : Contents α := ⟨colorSpace, own, inherited⟩
    let steps := calls.filterMap Call.step?
    let d := calls.foldl call (ofParams own colorSpace inherited)
    (∃ reported : List Place, reported.Sublist c.places ∧
        (∀ place, place ∈ reported ↔ c.Reported steps place) ∧
        d.unused.map some = reported.map (c.left? steps)) ∧
      (∀ q p, (d.lookup q.wants).1 = some p ↔ ∃ place, c.Wins steps q place p) ∧
      ∀ s place, c.Reported steps place → (c.left? (steps ++ [s]) place).isSome →
        (∀ q p, s = .ask q → ¬ c.Wins steps q place p) → c.Reported (steps ++ [s]) place := by
  intro c steps d
  classical
  have tracks : c.Tracks steps (fun place => decide (c.Returned steps place)) d := by
    have left : d = (ofParams own colorSpace inherited).after steps := foldl_call _ calls
    rw [left]
    exact Contents.tracks_after c steps fun place => decide_eq_true_iff
  refine ⟨⟨_, List.filter_sublist, fun place => ?_, tracks.map_unused⟩, fun q p => ?_,
    fun s place => Contents.Reported.concat⟩
  · rw [List.mem_filter, Option.any_eq_true]
    constructor
    · rintro ⟨-, p, there, due⟩
      exact ⟨p, there, by simpa using due⟩
    · rintro ⟨p, there, due⟩
      exact ⟨Contents.mem_places_of_left? there, p, there, by simpa using due⟩
  · rw [fst_lookup]
    exact tracks.find?_iff

/-- Control: of two radii the later one is returned, so the earlier one is still reported. After a
renaming both are. -/
theorem unused_report_is_exact_two_radii :
    let small : Param Float :=
      { type := "float", name := "radius", loc := .unknown, numbers := [1] }
    let large : Param Float :=
      { type := "float", name := "radius", loc := .unknown, numbers := [2] }
    let c : Contents Float := ⟨.srgb, [small, large], []⟩
    let q : Question := .typed "float" "radius"
    let made : Dictionary Float := ofParams [small, large] .srgb []
    let asked := [Call.oneFloat "radius" 0, .locationOf "radius"].foldl call made
    c.Reported [] (.own 0) ∧ (c.left? [.ask q] (.own 0)).isSome ∧ (¬ ∃ p, c.Wins [] q (.own 0) p) ∧
      c.Reported [.ask q] (.own 0) ∧ (made.lookup q.wants).1 = some large ∧
      (∃ place, c.Wins [] q place large) ∧ asked.unused.map (·.numbers) = [[1]] ∧
      (asked.call (.rename "radius" "zmax")).unused.map (·.numbers) = [[1], [2]] := by
  intro small large c q made asked
  obtain ⟨-, answers, lasting⟩ := unused_report_is_exact [small, large] [] .srgb []
  have reported : c.Reported [] (.own 0) := ⟨small, rfl, rfl, c.not_returned_nil _⟩
  have outranked : ¬ ∃ p, c.Wins [] q (.own 0) p := by
    rintro ⟨p, wins⟩
    have unasked := wins.unrivalled (.own 1) large (.own Nat.one_pos) rfl
    exact absurd unasked (by decide)
  have still : c.Reported [.ask q] (.own 0) := by
    refine lasting (.ask q) (.own 0) reported rfl ?_
    rintro _ p ⟨⟩ wins
    exact outranked ⟨p, wins⟩
  have found : (made.lookup q.wants).1 = some large := rfl
  exact ⟨reported, rfl, outranked, still, found, (answers q large).1 found, rfl, rfl⟩

end Dictionary

end SceneScript
