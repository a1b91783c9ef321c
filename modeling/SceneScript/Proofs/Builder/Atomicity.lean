import SceneScript.Proofs.Builder.Lockstep

/-!
# Failing calls change nothing

A raw call can fail in many ways: it is no directive, its arguments do not fit, or the builder
cannot carry it out. In every reachable builder each of them leaves the builder as it was
(`failing_call_changes_nothing`). A list of calls that fails therefore amounts to the calls before
the failing one.
-/

set_option autoImplicit false

namespace SceneScript.Builder

open Interpreter (runCall runCalls)

variable {α : Type} [Scalar α] {setup : BuildSetup α} {b : Builder α}

/-- A directive that fails leaves a reachable builder as it was and gives no notice. -/
theorem run_interpretAt_of_error (reach : Reachable setup b) {d : LocatedDirective α}
    {e : BuildError α} (failed : ((interpretAt setup d).run b).result = .error e) :
    (interpretAt setup d).run b = ⟨.error e, b, []⟩ :=
  ((outcome_interpretAt reach d).of_error failed).1

/-- A raw call that fails leaves a reachable builder as it was and gives no notice. -/
theorem run_runCall_of_error (reach : Reachable setup b) {r : Raw α}
    {e : RunError α (BuildError α)}
    (failed : ((runCall (interpret setup) r).run b).result = .error e) :
    (runCall (interpret setup) r).run b = ⟨.error e, b, []⟩ := by
  unfold runCall at failed ⊢
  cases h : Directive.ofRaw r with
  | error reason =>
    simp only [h, Action.run_fail, Except.error.injEq] at failed ⊢
    rw [failed]
  | ok d =>
    simp only [h] at failed ⊢
    -- the interpreter only renames the failure of the builder
    have run : (Interpreter.runDirective (interpret setup) d).run b =
        ⟨((interpretAt setup d).run b).result.mapError .directive,
          ((interpretAt setup d).run b).state, ((interpretAt setup d).run b).notices⟩ := rfl
    rw [run] at failed ⊢
    cases directive : ((interpretAt setup d).run b).result with
    | ok v =>
      rw [directive] at failed
      cases failed
    | error cause =>
      rw [run_interpretAt_of_error reach directive] at failed ⊢
      obtain rfl := Except.error.inj failed
      rfl

/-- In every reachable builder, a raw call that fails for any reason changes nothing. A list of raw
calls that fails does so at one of them, and leaves the builder, and the notices, as the calls
before that one do. -/
theorem failing_call_changes_nothing (reach : Reachable setup b) :
    (∀ r e, ((runCall (interpret setup) r).run b).result = .error e →
      ((runCall (interpret setup) r).run b).state = b) ∧
    ∀ rs e, ((runCalls (interpret setup) rs).run b).result = .error e →
      ∃ k r, rs[k]? = some r ∧
        ((runCalls (interpret setup) (rs.take k)).run b).result = .ok () ∧
        ((runCall (interpret setup) r).run
          ((runCalls (interpret setup) (rs.take k)).run b).state).result = .error e ∧
        ((runCalls (interpret setup) rs).run b).state =
          ((runCalls (interpret setup) (rs.take k)).run b).state ∧
        ((runCalls (interpret setup) rs).run b).notices =
          ((runCalls (interpret setup) (rs.take k)).run b).notices := by
  refine ⟨fun r e failed => ?_, fun rs e failed => ?_⟩
  · rw [run_runCall_of_error reach failed]
  · obtain ⟨k, r, o, found, done, run, fails, left⟩ := Action.exists_of_forEach_error _ failed
    -- the calls before the failing one lead to a reachable builder
    have before := reach.runCalls (rs.take k)
    have unchanged := run_runCall_of_error before (run ▸ fails)
    obtain rfl := run.symm.trans unchanged
    have state := congrArg Outcome.state left
    have notices := congrArg Outcome.notices left
    exact ⟨k, r, found, done, congrArg Outcome.result run, state,
      notices.trans (List.append_nil _)⟩

/-- Control: within an attribute scope, a TransformEnd fails, and so does a call that is no
directive. -/
theorem failing_call_changes_nothing_mismatched :
    let setup : BuildSetup Float := ⟨standardHash, .absent⟩
    let b := after setup (initial .defaults)
      [⟨.worldBegin, .unknown⟩, ⟨.attributeBegin, .unknown⟩, ⟨.objectEnd, .unknown⟩]
    let call := Raw.object [("name", .string "TransformEnd"), ("args", .array [])]
    Reachable setup b ∧
      (∃ e, ((runCall (interpret setup) call).run b).result = .error e) ∧
      ((runCall (interpret setup) call).run b).state = b ∧
      ((runCall (interpret setup) .null).run b).state = b := by
  intro setup b call
  have reach : Reachable setup b := (Reachable.fresh (fresh_initial _)).after _
  obtain ⟨alone, -⟩ := failing_call_changes_nothing reach
  exact ⟨reach, ⟨_, rfl⟩, alone call _ rfl, alone .null _ rfl⟩

end SceneScript.Builder
