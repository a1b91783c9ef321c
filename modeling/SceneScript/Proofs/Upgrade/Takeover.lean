import SceneScript.Proofs.Upgrade.RevisedRules
import SceneScript.Scalar.Double
import SceneScript.Writer.Basic

/-!
# Which definitions take effect

The definitions of a rule are printed in front of what it leaves of the dictionary, and the last of
several parameters of one type and name answers a question about them. So a definition takes effect
only if no parameter of its type and name was left behind it. The rules take such parameters out
under the keys of `Upgrade.clearedKeys`, and under no others.
-/

set_option autoImplicit false

namespace SceneScript

namespace Writer

variable {α : Type}

/-- What the parameters of a directive say when they are read again: the definitions of a rule, and
behind them what the rule has left. -/
def reread (definitions : List (Param α)) (left : Dictionary α) : Dictionary α :=
  dictionary (definitions ++ left.params)

variable {definitions : List (Param α)} {left : Dictionary α} {wanted : Param α → Bool}

/-- What was left comes last, and the last parameter answers. -/
theorem fst_lookup_reread :
    ((reread definitions left).lookup wanted).1 =
      (left.params.reverse.find? wanted).or (definitions.reverse.find? wanted) := by
  rw [Dictionary.fst_lookup, reread, dictionary, Dictionary.contents_ofParams, Contents.find?]
  simp only [List.reverse_append, List.find?_append, List.reverse_nil, List.find?_nil,
    Option.or_none]

end Writer

namespace Upgrade

open Dictionary

variable {α : Type} [Scalar α]

/-- A value that a rule has defined is the one that is read again, if no parameter is left under the
type and name of the definition. Otherwise the last one that is left is read in its place. What is
left there was in the input, and nothing is left under the cleared types and names. -/
theorem definitions_take_effect (s : Subject) (name : String) (loc : Location α) (d : Dictionary α)
    {u : Upgraded α} (finished : ((s.rule name loc).run d).result = .ok u) {p : Param α}
    (defined : p ∈ u.definitions) :
    let left := ((s.rule name loc).run d).state
    let wanted := hasType p.type p.name
    let answer := ((Writer.reread u.definitions left).lookup wanted).1
    ∃ q ∈ u.definitions, u.definitions.reverse.find? wanted = some q ∧
      ((∀ x ∈ left.params, wanted x = false) → answer = some q) ∧
      ∀ x ∈ left.params, wanted x = true →
        x ∈ d.params ∧ (p.type, p.name) ∉ clearedKeys ∧
          answer = left.params.reverse.find? wanted := by
  intro left wanted answer
  have introduced : Introduced d.contents left.contents p :=
    (revised_rule s name loc d rfl u finished).introduced p defined
  have reread : answer =
      (left.params.reverse.find? wanted).or (u.definitions.reverse.find? wanted) :=
    Writer.fst_lookup_reread
  -- the definition itself is one that is wanted, because its type has the present spelling
  have own : wanted p = true := by
    simp only [wanted, hasType, introduced.modern, beq_self_eq_true, Bool.and_self]
  have found : (u.definitions.reverse.find? wanted).isSome :=
    List.find?_isSome.2 ⟨p, List.mem_reverse.2 defined, own⟩
  obtain ⟨q, last⟩ := Option.isSome_iff_exists.1 found
  refine ⟨q, List.mem_reverse.1 (List.mem_of_find?_eq_some last), last, fun alone => ?_,
    fun x mem has => ?_⟩
  · have nothing : left.params.reverse.find? wanted = none := by
      apply List.find?_eq_none.2
      intro x hx
      rw [alone x (List.mem_reverse.1 hx)]
      exact Bool.false_ne_true
    rw [reread, nothing, last, Option.none_or]
  · have leftover := introduced.leftover x (by rwa [params_contents]) has
    rw [params_contents] at leftover
    have some : (left.params.reverse.find? wanted).isSome :=
      List.find?_isSome.2 ⟨x, List.mem_reverse.2 mem, has⟩
    exact ⟨leftover.1, leftover.2, by rw [reread, Option.or_of_isSome some]⟩

/-- Control: direct lighting without a depth of its own is traced to depth one. -/
theorem definitions_take_effect_directlighting :
    let samples : Param Float := ⟨"integer", "pixelsamples", .unknown, [16], [], [], false, none⟩
    let depth : Param Float := Rule.intDefinition "maxdepth" 1
    let after := (Subject.integrator.rule "directlighting" .unknown).run (Writer.dictionary [samples])
    after.result = .ok ⟨"path", [depth]⟩ ∧
      ((Writer.reread [depth] after.state).lookup (hasType "integer" "maxdepth")).1 = some depth := by
  intro samples depth after
  have finished : after.result = .ok ⟨"path", [depth]⟩ := rfl
  obtain ⟨q, mem, -, effective, -⟩ := definitions_take_effect .integrator "directlighting" .unknown
    (Writer.dictionary [samples]) finished (List.mem_singleton_self depth)
  obtain rfl := List.mem_singleton.1 mem
  refine ⟨finished, effective fun x hx => ?_⟩
  obtain rfl : x = samples := List.mem_singleton.1 hx
  rfl

/-- A depth that was given to direct lighting stands behind the depth that the rule defines, and
hides it. -/
theorem given_depth_hides_defined_depth :
    let given : Param Float := ⟨"integer", "maxdepth", .unknown, [5], [], [], false, none⟩
    let defined : Param Float := Rule.intDefinition "maxdepth" 1
    let after := (Subject.integrator.rule "directlighting" .unknown).run (Writer.dictionary [given])
    after.result = .ok ⟨"path", [defined]⟩ ∧
      ((Writer.reread [defined] after.state).lookup (hasType "integer" "maxdepth")).1 = some given ∧
      given.numbers ≠ defined.numbers := by
  intro given defined after
  refine ⟨rfl, rfl, fun same => ?_⟩
  have values : given.numbers == defined.numbers := by rw [same]; decide +kernel
  exact absurd values (by decide +kernel)

end Upgrade

end SceneScript
