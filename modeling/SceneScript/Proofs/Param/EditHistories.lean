import SceneScript.Proofs.Upgrade.Contents
import SceneScript.Scalar.Double

/-!
# Dictionaries under edits

Parameters may share a name and differ in type, in the spelling of the type, and in being a
dictionary's own or inherited. A `Question` asks for those of a name and a type, or for the colors
of a name, and the last own parameter answers it, or else the last inherited one
(`Contents.Answers`).

Removals and renamings treat every parameter by itself, wherever it stands: it goes, stays, or gets
another name. So what has become of a dictionary after any number of edits is said by the fate of
each single parameter (`contents_after`), and the parameters that are left stand in their old order.
A renaming may bring parameters of two names together. The question about the common name is then
answered as if it had been asked for both names before (`find?_rename_of_after`).

`lookups_follow_edits` puts the laws of edits and lookups together.
-/

set_option autoImplicit false

namespace SceneScript

/-! ## Questions -/

/-- What a lookup asks for: the parameters of a name and a type, in either spelling of the type, or
those of a name and any color type. -/
inductive Question where
  | typed (type name : String)
  | color (name : String)

namespace Question

/-- The name that is asked for. -/
def name : Question → String
  | typed _ name => name
  | color name => name

/-- Whether a type, in its present spelling, is asked for. -/
def covers : Question → String → Bool
  | typed type _, other => other == type
  | color _, other => colorTypes.contains other

/-- Whether a parameter is asked for. -/
def wants {α : Type} (q : Question) (p : Param α) : Bool :=
  p.name == q.name && q.covers (modernType p.type)

/-- No parameter is asked for in both questions. -/
def Apart (q r : Question) : Prop :=
  q.name ≠ r.name ∨ ∀ type, q.covers type = true → r.covers type = false

/-- What the first question asks for, the second one asks for too. -/
def Within (q r : Question) : Prop :=
  q.name = r.name ∧ ∀ type, q.covers type = true → r.covers type = true

variable {α : Type} {q r : Question} {p : Param α}

theorem wants_iff : q.wants p = true ↔ p.name = q.name ∧ q.covers (modernType p.type) = true := by
  simp [wants]

theorem Apart.not_wants (apart : q.Apart r) (wanted : q.wants p = true) : r.wants p = false := by
  obtain ⟨name, type⟩ := wants_iff.1 wanted
  apply Bool.eq_false_iff.2
  intro both
  obtain ⟨name', type'⟩ := wants_iff.1 both
  rcases apart with names | types
  · exact names (name.symm.trans name')
  · rw [types _ type] at type'
    exact Bool.false_ne_true type'

theorem Within.wants (within : q.Within r) (wanted : q.wants p = true) : r.wants p = true := by
  obtain ⟨name, type⟩ := wants_iff.1 wanted
  exact wants_iff.2 ⟨name.trans within.1, within.2 _ type⟩

end Question

/-! ## Answers -/

/-- Of the parameters in a list that `wanted` accepts, `p` is the last. -/
def IsLast {α : Type} (wanted : Param α → Bool) (ps : List (Param α)) (p : Param α) : Prop :=
  ∃ front behind, ps = front ++ p :: behind ∧ wanted p = true ∧ ∀ q ∈ behind, wanted q = false

theorem isLast_of_find? {α : Type} {wanted : Param α → Bool} {ps : List (Param α)} {p : Param α}
    (found : ps.reverse.find? wanted = some p) : IsLast wanted ps p := by
  obtain ⟨accepted, behind, front, split, none⟩ := List.find?_eq_some_iff_append.1 found
  refine ⟨front.reverse, behind.reverse, ?_, accepted, ?_⟩
  · rw [← List.reverse_reverse ps, split]
    simp
  · intro q hq
    simpa using none q (List.mem_reverse.1 hq)

namespace Contents

variable {α : Type}

/-- The answer of these contents to a question: the last own parameter that `wanted` accepts, the
last inherited one if there is no own one, and none if there is neither. -/
inductive Answers (wanted : Param α → Bool) (c : Contents α) : Option (Param α) → Prop
  | own {p : Param α} : IsLast wanted c.own p → Answers wanted c (some p)
  | inherited {p : Param α} : (∀ q ∈ c.own, wanted q = false) → IsLast wanted c.inherited p →
      Answers wanted c (some p)
  | nothing : (∀ q ∈ c.own, wanted q = false) → (∀ q ∈ c.inherited, wanted q = false) →
      Answers wanted c none

theorem answers_find? (wanted : Param α → Bool) (c : Contents α) :
    c.Answers wanted (c.find? wanted) := by
  have absent {ps : List (Param α)} (none : ps.reverse.find? wanted = none) :
      ∀ q ∈ ps, wanted q = false := by
    intro q hq
    simpa using List.find?_eq_none.1 none q (List.mem_reverse.2 hq)
  unfold find?
  cases own : c.own.reverse.find? wanted with
  | some p => exact .own (isLast_of_find? own)
  | none =>
    rw [Option.none_or]
    cases inherited : c.inherited.reverse.find? wanted with
    | some p => exact .inherited (absent own) (isLast_of_find? inherited)
    | none => exact .nothing (absent own) (absent inherited)

/-- What answers a question is asked for. -/
theorem wants_of_find? {wanted : Param α → Bool} {c : Contents α} {p : Param α}
    (found : c.find? wanted = some p) : wanted p = true := by
  rcases Option.or_eq_some_iff.1 found with own | ⟨-, inherited⟩
  · exact List.find?_some own
  · exact List.find?_some inherited

/-- The contents with something done to every parameter by itself. -/
def each (fate : Param α → Option (Param α)) (c : Contents α) : Contents α where
  colorSpace := c.colorSpace
  own := c.own.filterMap fate
  inherited := c.inherited.filterMap fate

theorem each_each (fate fate' : Param α → Option (Param α)) (c : Contents α) :
    (c.each fate).each fate' = c.each fun p => (fate p).bind fate' := by
  simp only [each, List.filterMap_filterMap]

theorem each_some (c : Contents α) : c.each some = c := by
  simp only [each, List.filterMap_some]

/-! ## Removals and renamings -/

variable {c : Contents α} {q r : Question} {before after : String}

/-- A removal leaves no answer to a question that it covers. -/
theorem find?_removeWhere_of_within (within : q.Within r) :
    (c.removeWhere r.wants).find? q.wants = none := by
  apply find?_eq_none_iff.2
  intro p hp
  obtain ⟨-, kept⟩ := mem_params_removeWhere.1 hp
  apply Bool.eq_false_iff.2
  intro wanted
  rw [within.wants wanted] at kept
  exact Bool.false_ne_true kept.symm

/-- The answer under new names comes from the old ones. -/
theorem find?_rename (wanted : Param α → Bool) :
    (c.rename before after).find? wanted =
      (c.find? fun p => wanted (p.renamed before after)).map (Param.renamed before after) := by
  simp only [find?, rename, ← List.map_reverse, List.find?_map, Option.map_or, Function.comp_def]

/-- The old name is gone. -/
theorem find?_rename_of_before (differ : before ≠ after) (name : q.name = before) :
    (c.rename before after).find? q.wants = none := by
  rw [find?_rename, Option.map_eq_none_iff, find?_eq_none_iff]
  intro p _
  apply Bool.eq_false_iff.2
  intro wanted
  have named : (p.renamed before after).name = before := (Question.wants_iff.1 wanted).1.trans name
  unfold Param.renamed at named
  split at named
  · exact differ named.symm
  · rename_i other
    exact other (beq_iff_eq.2 named)

/-- Other names have the answers that they had. -/
theorem find?_rename_of_other (old : q.name ≠ before) (new : q.name ≠ after) :
    (c.rename before after).find? q.wants = c.find? q.wants := by
  -- a parameter that answers has the name of the question, before and behind
  have same : (fun p : Param α => q.wants (p.renamed before after)) = q.wants := by
    funext p
    unfold Param.renamed
    split
    · rename_i named
      have was : (p.name == q.name) = false :=
        beq_false_of_ne fun h => old (h.symm.trans (beq_iff_eq.1 named))
      have becomes : (after == q.name) = false := beq_false_of_ne (Ne.symm new)
      simp [Question.wants, was, becomes]
    · rfl
  rw [find?_rename, same]
  cases found : c.find? q.wants with
  | none => rfl
  | some p =>
    have named : p.name = q.name := (Question.wants_iff.1 (wants_of_find? found)).1
    have kept : p.renamed before after = p :=
      if_neg fun h => old (named.symm.trans (beq_iff_eq.1 h))
    rw [Option.map_some, kept]

/-- The new name has the answer of both names together. -/
theorem find?_rename_of_after (name : q.name = after) :
    (c.rename before after).find? q.wants =
      (c.find? fun p => (p.name == before || p.name == after) && q.covers (modernType p.type)).map
        (Param.renamed before after) := by
  rw [find?_rename]
  congr 2
  funext p
  unfold Param.renamed
  split
  · rename_i named
    simp [Question.wants, name, named]
  · rename_i other
    simp [Question.wants, name, other]

end Contents

/-! ## Histories -/

namespace Dictionary

/-- What may be done to a dictionary: a question, which only leaves a mark, a removal, or a
renaming. -/
inductive Step where
  | ask (q : Question)
  | remove (q : Question)
  | rename (before after : String)

variable {α : Type}

/-- The dictionary after one step. -/
def step (d : Dictionary α) : Step → Dictionary α
  | .ask q => (d.lookup q.wants).2
  | .remove (.typed type name) => d.remove type name
  | .remove (.color name) => d.removeColor name
  | .rename before after => d.rename before after

/-- The dictionary after steps in turn. -/
def after (d : Dictionary α) (steps : List Step) : Dictionary α :=
  steps.foldl step d

/-- What a step makes of a single parameter, if it leaves it. -/
def Step.act : Step → Param α → Option (Param α)
  | .ask _, p => some p
  | .remove q, p => if q.wants p then none else some p
  | .rename before after, p => some (p.renamed before after)

/-- What becomes of a single parameter, if it is left. -/
def fate : List Step → Param α → Option (Param α)
  | [], p => some p
  | s :: rest, p => (s.act p).bind (fate rest)

variable (d : Dictionary α)

/-- Every removal goes by a question. -/
theorem step_remove (q : Question) : d.step (.remove q) = d.removeWhere q.wants := by
  cases q <;> rfl

/-- A step treats every parameter by itself. -/
theorem contents_step (s : Step) : (d.step s).contents = d.contents.each s.act := by
  cases s with
  | ask q =>
    rw [step, contents_lookup]
    exact d.contents.each_some.symm
  | remove q =>
    have kept (ps : List (Param α)) : ps.filter (fun p => !q.wants p) =
        ps.filterMap (Step.act (.remove q)) := by
      rw [← List.filterMap_eq_filter]
      congr 1
      funext p
      cases wanted : q.wants p <;> simp [Step.act, wanted, Option.guard]
    rw [step_remove, contents_removeWhere, Contents.removeWhere, kept, kept]
    rfl
  | rename before after =>
    rw [step, contents_rename, Contents.rename, ← List.filterMap_eq_map]
    rfl

/-- So does a whole history, and every parameter that is left keeps its place among the others. -/
theorem contents_after (steps : List Step) :
    (d.after steps).contents = d.contents.each (fate steps) := by
  induction steps generalizing d with
  | nil => exact d.contents.each_some.symm
  | cons s rest ih =>
    rw [after, List.foldl_cons]
    exact (ih (d.step s)).trans (by rw [contents_step, Contents.each_each]; rfl)

/-- A removal takes away as many entries as there are parameters that it goes by. -/
theorem size_removeWhere (dropped : Param α → Bool) :
    (d.removeWhere dropped).size + d.params.countP dropped = d.size := by
  have one (es : List (DictEntry α)) :
      (es.filter fun e => !dropped e.param).length + (es.map (·.param)).countP dropped =
        es.length := by
    have split : es.length = _ :=
      List.length_eq_countP_add_countP fun e : DictEntry α => !dropped e.param
    rw [split, List.countP_map, ← List.countP_eq_length_filter]
    congr 1
    apply List.countP_congr
    simp
  have own := one d.own
  have inherited := one d.inherited
  simp only [size, removeWhere, params, entries, List.map_append, List.countP_append]
  omega

/-- Take any parameters of a dictionary's own, any inherited ones, and any questions, removals and
renamings in turn. What is left of both lists is what is left of each parameter, in the old order.
Any question has the last own parameter that it asks for as its answer, or else the last inherited
one. After one more removal there is no answer to any question that the removal covers, all other
questions have the answers that they had, and the dictionary has lost as many entries as there were
parameters to remove. And after one more renaming, to another name, the old name has no answer, the
new one has the answer of both names together, and third names have the answers that they had. -/
theorem lookups_follow_edits (own inherited : List (Param α)) (colorSpace : ColorSpace)
    (steps : List Step) :
    let d := (ofParams own colorSpace inherited).after steps
    d.contents = ⟨colorSpace, own.filterMap (fate steps), inherited.filterMap (fate steps)⟩ ∧
      (∀ q : Question, d.contents.Answers q.wants (d.lookup q.wants).1) ∧
      (∀ r : Question,
        let removed := d.step (.remove r)
        removed.size + d.params.countP r.wants = d.size ∧
          (∀ q : Question, q.Within r → (removed.lookup q.wants).1 = none) ∧
          ∀ q : Question, q.Apart r → (removed.lookup q.wants).1 = (d.lookup q.wants).1) ∧
      ∀ before after, before ≠ after → ∀ q : Question,
        let renamed := d.step (.rename before after)
        (q.name = before → (renamed.lookup q.wants).1 = none) ∧
          (q.name = after → ∃ former,
            d.contents.Answers (fun p => (p.name == before || p.name == after) &&
              q.covers (modernType p.type)) former ∧
            (renamed.lookup q.wants).1 = former.map (Param.renamed before after)) ∧
          (q.name ≠ before → q.name ≠ after →
            (renamed.lookup q.wants).1 = (d.lookup q.wants).1) := by
  intro d
  refine ⟨?_, ?_, ?_, ?_⟩
  · rw [contents_after, contents_ofParams]
    rfl
  · intro q
    rw [fst_lookup]
    exact Contents.answers_find? _ _
  · intro r removed
    have edited : removed = d.removeWhere r.wants := step_remove d r
    refine ⟨edited ▸ size_removeWhere d _, ?_, ?_⟩
    · intro q within
      rw [edited, fst_lookup, contents_removeWhere]
      exact Contents.find?_removeWhere_of_within within
    · intro q apart
      rw [edited, fst_lookup, fst_lookup, contents_removeWhere]
      exact Contents.find?_removeWhere_of_disjoint fun p => apart.not_wants
  · intro before after differ q renamed
    have edited : renamed.contents = d.contents.rename before after := contents_rename d _ _
    rw [fst_lookup, fst_lookup, edited]
    refine ⟨Contents.find?_rename_of_before differ, ?_, Contents.find?_rename_of_other⟩
    intro name
    exact ⟨_, Contents.answers_find? _ _, Contents.find?_rename_of_after name⟩

/-- Control: a color in an old spelling and an inherited one of another type are removed together,
and two names for one number are brought together. -/
theorem lookups_follow_edits_merged_names :
    let eta : Param Float := { type := "float", name := "eta", loc := .unknown, numbers := [1.3] }
    let red : Param Float := { type := "color", name := "Kd", loc := .unknown, numbers := [1, 0, 0] }
    let index : Param Float :=
      { type := "float", name := "index", loc := .unknown, numbers := [1.5] }
    let warm : Param Float :=
      { type := "blackbody", name := "Kd", loc := .unknown, numbers := [2700] }
    let color : Question := .color "Kd"
    let kelvin : Question := .typed "blackbody" "Kd"
    let steps : List Step := [.ask (.typed "rgb" "Kd"), .rename "Kr" "Kt"]
    let d := (ofParams [eta, red, index] .srgb [warm]).after steps
    let removed := d.step (.remove color)
    let renamed := d.step (.rename "index" "eta")
    kelvin.Within color ∧ (Question.typed "float" "eta").Apart color ∧ "index" ≠ "eta" ∧
      removed.size + 2 = d.size ∧ (removed.lookup kelvin.wants).1 = none ∧
      (removed.oneFloat "eta" 0).1 = 1.3 ∧
      (renamed.oneFloat "index" 0).1 = 0 ∧ (renamed.oneFloat "eta" 0).1 = 1.5 := by
  intro eta red index warm color kelvin steps d removed renamed
  have within : kelvin.Within color := by
    refine ⟨rfl, fun type covered => ?_⟩
    obtain rfl : type = "blackbody" := beq_iff_eq.1 covered
    decide
  have apart : (Question.typed "float" "eta").Apart color := Or.inl (by decide)
  have differ : "index" ≠ "eta" := by decide
  obtain ⟨-, -, removals, renamings⟩ := lookups_follow_edits [eta, red, index] [warm] .srgb steps
  obtain ⟨size, gone, other⟩ := removals color
  obtain ⟨old, -, -⟩ := renamings "index" "eta" differ (.typed "float" "index")
  refine ⟨within, apart, differ, size, gone kelvin within, ?_, ?_, rfl⟩
  · -- the removal does not concern the number
    have answer : (removed.lookup (hasType "float" "eta")).1 = some eta :=
      (other (.typed "float" "eta") apart).trans rfl
    rw [oneFloat, fst_ask, ← fst_lookup, answer]
    rfl
  · have answer : (renamed.lookup (hasType "float" "index")).1 = none := old rfl
    rw [oneFloat, fst_ask, ← fst_lookup, answer]
    rfl

end Dictionary

end SceneScript
