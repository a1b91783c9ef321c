import SceneScript.Proofs.Builder.Growth
import SceneScript.Proofs.Builder.Provenance

/-!
# Accepted directives

A directive is accepted if it neither fails nor is answered by an error message. An accepted
directive stands where it is allowed, and one that leaves the scopes alone has its effect
(`effect_of_accepts`). A directive that is not accepted leaves the builder as it was
(`next_of_not_accepts`), so whatever changes a builder is the work of accepted directives. The shapes
of a run, for example, are what its accepted Shape directives made (`shapes_after`).
-/

set_option autoImplicit false

namespace SceneScript

variable {α : Type}

namespace BuildNotice

theorem isError_of_isWarning {n : BuildNotice α} (warning : n.isWarning = true) :
    n.isError = false := by
  cases n with
  | message m =>
    have severity : m.severity = .warning := of_decide_eq_true warning
    simp [isError, severity]
  | render scene => rfl
  | report statistics => rfl

theorem isError_of_isRendererCall {n : BuildNotice α} (call : n.isRendererCall = true) :
    n.isError = false := by
  cases n with
  | message m => exact absurd call Bool.false_ne_true
  | render scene => rfl
  | report statistics => rfl

end BuildNotice

namespace Builder

variable [Scalar α] {setup : BuildSetup α} {b : Builder α} {d : LocatedDirective α}

/-! ## What acceptance says -/

/-- A directive that is out of place or void is not accepted. -/
theorem not_accepts_of_ignored
    (ignored : ¬ d.directive.AllowedIn b.phase ∨ d.directive.isVoid = true) :
    accepts setup b d = false := by
  obtain ⟨text, run⟩ := run_interpretAt_of_ignored setup ignored
  simp [accepts, run, BuildNotice.isError]

theorem placed_of_accepts (accepted : accepts setup b d = true) :
    misplaced? b.phase d.directive = none := by
  by_contra misplaced
  rw [← Directive.allowedIn_iff] at misplaced
  rw [not_accepts_of_ignored (Or.inl misplaced)] at accepted
  exact Bool.false_ne_true accepted

theorem isVoid_of_accepts (accepted : accepts setup b d = true) :
    d.directive.isVoid = false := by
  by_contra void
  rw [not_accepts_of_ignored (Or.inr (eq_true_of_ne_false void))] at accepted
  exact Bool.false_ne_true accepted

theorem finished_of_accepts (accepted : accepts setup b d = true) :
    ((interpretAt setup d).run b).result = .ok () := by
  unfold accepts at accepted
  split at accepted
  · assumption
  · exact absurd accepted Bool.false_ne_true

/-- An accepted directive that leaves the scopes alone has its effect. -/
theorem effect_of_accepts (accepted : accepts setup b d = true)
    (plain : d.directive.scopeRole = .plain) :
    Effect setup d.loc b d.directive ((interpretAt setup d).run b) := by
  rw [run_interpretAt_of_placed (placed_of_accepts accepted)]
  exact effect_perform setup d.loc plain

/-- A directive that finishes without an error message is accepted. -/
theorem accepts_of_finished (done : ((interpretAt setup d).run b).result = .ok ())
    (fine : ∀ n ∈ ((interpretAt setup d).run b).notices, n.isError = false) :
    accepts setup b d = true := by
  unfold accepts
  rw [done]
  exact List.all_eq_true.2 fun n hn => by rw [fine n hn]; rfl

/-! ## Directives that are not accepted -/

/-- What a directive comes to is no error, or it changes nothing and there is no warning. -/
theorem StepOutcome.fine_or_same {loc : Location α} {directive : Directive α}
    {o : Outcome (BuildError α) (Builder α) (BuildNotice α) Unit}
    (outcome : StepOutcome setup loc b directive o) :
    (o.result = .ok () ∧ ∀ n ∈ o.notices, n.isError = false) ∨
      (o.state = b ∧ ∀ n ∈ o.notices, n.isWarning = false) := by
  cases outcome with
  | ignored _ =>
    refine Or.inr ⟨rfl, fun n hn => ?_⟩
    rw [List.mem_singleton.1 hn]
    rfl
  | refused _ _ => exact Or.inr ⟨rfl, fun n hn => absurd hn List.not_mem_nil⟩
  | plain _ _ _ warnings =>
    exact Or.inl ⟨rfl, fun n hn => BuildNotice.isError_of_isWarning (warnings n hn)⟩
  | worldEnd _ =>
    refine Or.inl ⟨rfl, fun n hn => ?_⟩
    rcases List.mem_append.1 hn with missing | call
    · exact BuildNotice.isError_of_isWarning (isWarning_of_missingEnd n missing)
    · exact BuildNotice.isError_of_isRendererCall (isRendererCall_of_mem call)
  | _ => exact Or.inl ⟨rfl, fun n hn => absurd hn List.not_mem_nil⟩

/-- A directive that is not accepted changes nothing, and is not answered by a warning. -/
theorem same_of_not_accepts (reach : Reachable setup b) (refused : accepts setup b d = false) :
    next setup b d = b ∧
      ∀ n ∈ ((interpretAt setup d).run b).notices, n.isWarning = false := by
  rcases (outcome_interpretAt reach d).fine_or_same with ⟨done, fine⟩ | same
  · rw [accepts_of_finished done fine] at refused
    exact absurd refused.symm Bool.false_ne_true
  · exact same

/-- A directive that is not accepted changes nothing. -/
theorem next_of_not_accepts (reach : Reachable setup b) (refused : accepts setup b d = false) :
    next setup b d = b :=
  (same_of_not_accepts reach refused).1

/-- A directive that changes anything is accepted. -/
theorem accepts_of_next_ne (reach : Reachable setup b) (changed : next setup b d ≠ b) :
    accepts setup b d = true := by
  by_contra refused
  exact changed (next_of_not_accepts reach (eq_false_of_ne_true refused))

/-! ## Accepted directives of a run -/

section Run

variable {start : Builder α} {ds : List (LocatedDirective α)}

/-- What has looked something up is the work of an accepted directive. -/
theorem Made.accepted {β : Type} {thing : β} {made : β × TransformPool α}
    (m : Made setup start ds d b thing made) (fresh : Fresh start)
    (looked : b.pool.lookups < made.2.lookups) : accepts setup b d = true := by
  refine accepts_of_next_ne (m.given.reachable (.fresh fresh)) fun same => ?_
  rw [← m.pool, same] at looked
  exact Nat.lt_irrefl _ looked

end Run

end Builder

end SceneScript
