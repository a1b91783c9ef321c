import SceneScript.Proofs.Writer.Outcomes
import SceneScript.Scalar.Double

/-!
# Failing directives leave no trace in the output

An upgrade rule may refuse its directive after it has removed, renamed and reported things. All of
that happens in a dictionary of the rule's own, and the writer puts out nothing until the rule has
finished; an End checks its scope before it writes. So a directive that fails might as well not have
been given to the writer (`failed_directive_is_not_written`).
-/

set_option autoImplicit false

namespace SceneScript.Writer

variable {α : Type} [Scalar α] {upgrading : Bool} {o : OpenScopes α} {d : LocatedDirective α}
  {e : WriteError α}

/-- Whatever scopes are open, and upgrading or not: a directive that fails puts out no chunk and
leaves the open scopes alone, so that all directives after it, whether they are given the same
parameters or others, come to what they would have come to without it. -/
theorem failed_directive_is_not_written
    (failed : ((interpretAt upgrading d).run o).result = .error e) :
    Failure upgrading d o e ∧
    (∀ n ∈ ((interpretAt upgrading d).run o).notices, n.isChunk = false) ∧
    next upgrading o d = o ∧
    ∀ later : List (LocatedDirective α),
      after upgrading o (d :: later) = after upgrading o later ∧
      noticesOf upgrading o (d :: later) =
        ((interpretAt upgrading d).run o).notices ++ noticesOf upgrading o later ∧
      textOf (noticesOf upgrading o (d :: later)) = textOf (noticesOf upgrading o later) := by
  obtain ⟨cause, ms, run⟩ := run_interpretAt_of_error failed
  have stay : next upgrading o d = o := by rw [next, run]
  refine ⟨cause, fun n hn => ?_, stay, fun later => ⟨?_, ?_, ?_⟩⟩
  · rw [run] at hn
    obtain ⟨m, -, rfl⟩ := List.mem_map.1 hn
    rfl
  · rw [after_cons, stay]
  · rw [noticesOf, stay]
  · rw [noticesOf, stay, run, textOf_append, textOf_messages, String.empty_append]

/-- Control: a material that is refused for the last of its parameters, after a message about
another one. -/
theorem failed_directive_is_not_written_textured_opacity :
    let gloss : Param Float := ⟨"spectrum", "Ks", .unknown, [], ["gold"], [], false, none⟩
    let veil : Param Float := ⟨"texture", "opacity", .unknown, [], ["lace"], [], false, none⟩
    let d : LocatedDirective Float := ⟨.material "uber" [gloss, veil], .unknown⟩
    let o := after true .none [⟨.attributeBegin, .unknown⟩]
    (∃ e, ((interpretAt true d).run o).result = .error e) ∧
      ((interpretAt true d).run o).notices ≠ [] ∧
      next true o d = o ∧
      textOf (noticesOf true o [d, ⟨.attributeEnd, .unknown⟩]) = "AttributeEnd\n" := by
  intro gloss veil d o
  obtain ⟨e, failed⟩ := not_accepts_iff.1 (show accepts true o d = false by decide +kernel)
  obtain ⟨-, -, stay, later⟩ := failed_directive_is_not_written failed
  obtain ⟨-, -, text⟩ := later [⟨.attributeEnd, .unknown⟩]
  have warned : ((interpretAt true d).run o).notices.isEmpty = false := by decide +kernel
  refine ⟨⟨e, failed⟩, fun none => ?_, stay, text.trans (by decide +kernel)⟩
  rw [none] at warned
  exact absurd warned (by simp)

end SceneScript.Writer
