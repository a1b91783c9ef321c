import SceneScript.Builder.Interpret
import SceneScript.Call.Interpreter
import SceneScript.Proofs.Action

/-!
# Runs of the builder

A run gives directives to a builder one after another. A caller may stop at the first failure
(`carryOut`) or go on with the state that the failing directive left (`after`). `Reachable` collects
the builders of all runs that go on: every directive is allowed at every moment, whether it is
carried out, ignored or fails.

A run of raw calls stays within the reachable builders (`Reachable.runCall`), since a call that is
no directive never comes to the builder.
-/

set_option autoImplicit false

namespace SceneScript.Builder

variable {α : Type} [Scalar α]

/-- What the builder does for a directive at its place. -/
def interpretAt (setup : BuildSetup α) (d : LocatedDirective α) : Build α Unit :=
  interpret setup d.directive d.loc

/-- What the builder does for directives in turn, up to the first failure. -/
def carryOut (setup : BuildSetup α) (ds : List (LocatedDirective α)) : Build α Unit :=
  Action.forEach (interpretAt setup) ds

/-- The builder after one directive, failed or not. -/
def next (setup : BuildSetup α) (b : Builder α) (d : LocatedDirective α) : Builder α :=
  ((interpretAt setup d).run b).state

/-- The builder after directives in turn, each given to it even if the one before failed. -/
def after (setup : BuildSetup α) (b : Builder α) (ds : List (LocatedDirective α)) : Builder α :=
  ds.foldl (next setup) b

/-- The notices of directives in turn, each given to the builder even if the one before failed. -/
def noticesOf (setup : BuildSetup α) (b : Builder α) :
    List (LocatedDirective α) → List (BuildNotice α)
  | [] => []
  | d :: rest => ((interpretAt setup d).run b).notices ++ noticesOf setup (next setup b d) rest

/-- A builder to which no directive was given. It may have been handed a pool that is in use. -/
def Fresh (b : Builder α) : Prop :=
  ∃ settings pool, b = { initial settings with pool }

/-- The builders of all runs. -/
inductive Reachable (setup : BuildSetup α) : Builder α → Prop
  | fresh {b : Builder α} : Fresh b → Reachable setup b
  | next {b : Builder α} (d : LocatedDirective α) :
    Reachable setup b → Reachable setup (next setup b d)

theorem fresh_initial (settings : RenderSettings α) : Fresh (initial settings) :=
  ⟨settings, .empty, rfl⟩

section Interpret

variable {setup : BuildSetup α} {b : Builder α} {d : LocatedDirective α}

/-- A directive that is not out of place is carried out. -/
theorem run_interpretAt_of_placed (placed : misplaced? b.phase d.directive = none) :
    (interpretAt setup d).run b = (perform setup d.loc d.directive).run b := by
  unfold interpretAt interpret
  rw [Action.run_get_bind, placed]

/-- A directive that is out of place is answered by an error message, and changes nothing. -/
theorem run_interpretAt_of_misplaced {text : String}
    (misplaced : misplaced? b.phase d.directive = some text) :
    (interpretAt setup d).run b = ⟨.ok (), b, [.message ⟨.error, text, some d.loc⟩]⟩ := by
  unfold interpretAt interpret
  rw [Action.run_get_bind, misplaced]
  rfl

theorem next_of_placed (placed : misplaced? b.phase d.directive = none) :
    next setup b d = ((perform setup d.loc d.directive).run b).state :=
  congrArg Outcome.state (run_interpretAt_of_placed placed)

theorem next_of_misplaced {text : String}
    (misplaced : misplaced? b.phase d.directive = some text) : next setup b d = b :=
  congrArg Outcome.state (run_interpretAt_of_misplaced misplaced)

end Interpret

section Runs

variable (setup : BuildSetup α)

@[simp] theorem after_nil (b : Builder α) : after setup b [] = b := rfl

@[simp] theorem after_cons (b : Builder α) (d : LocatedDirective α)
    (rest : List (LocatedDirective α)) :
    after setup b (d :: rest) = after setup (next setup b d) rest := rfl

@[simp] theorem after_append (b : Builder α) (ds es : List (LocatedDirective α)) :
    after setup b (ds ++ es) = after setup (after setup b ds) es :=
  List.foldl_append

/-- Without a failure, both ways of running end in the same builder. -/
theorem state_carryOut {ds : List (LocatedDirective α)} {b : Builder α}
    (done : ((carryOut setup ds).run b).result = .ok ()) :
    ((carryOut setup ds).run b).state = after setup b ds := by
  unfold carryOut at done ⊢
  induction ds generalizing b with
  | nil => rfl
  | cons d rest ih =>
    obtain ⟨first, others⟩ := (Action.finished_forEach_cons _).1 done
    rw [Action.run_forEach_cons_of_finished _ rest first]
    exact ih others

end Runs

namespace Reachable

variable {setup : BuildSetup α} {b : Builder α}

/-- A run from a reachable builder stays within the reachable builders. -/
theorem after (reach : Reachable setup b) (ds : List (LocatedDirective α)) :
    Reachable setup (b.after setup ds) := by
  induction ds generalizing b with
  | nil => exact reach
  | cons d rest ih => exact ih (reach.next d)

/-- The builder after a raw call, failed or not, is reachable. -/
theorem runCall (reach : Reachable setup b) (r : Raw α) :
    Reachable setup ((Interpreter.runCall (interpret setup) r).run b).state := by
  unfold Interpreter.runCall
  -- a call that is no directive fails before the builder sees it
  cases Directive.ofRaw r with
  | error reason => exact reach
  | ok d => exact reach.next d

/-- The builder after raw calls in turn, up to the first failure, is reachable. -/
theorem runCalls (reach : Reachable setup b) (rs : List (Raw α)) :
    Reachable setup ((Interpreter.runCalls (interpret setup) rs).run b).state := by
  unfold Interpreter.runCalls
  induction rs generalizing b with
  | nil => exact reach
  | cons r rest ih =>
    cases h : ((Interpreter.runCall (interpret setup) r).run b).result with
    | error e =>
      rw [Action.run_forEach_cons_of_error _ rest h]
      exact reach.runCall r
    | ok v =>
      rw [Action.run_forEach_cons_of_finished _ rest h]
      exact ih (reach.runCall r)

end Reachable

/-- The reachable builders are those after lists of directives. -/
theorem reachable_iff {setup : BuildSetup α} {b : Builder α} :
    Reachable setup b ↔ ∃ start ds, Fresh start ∧ b = after setup start ds := by
  constructor
  · intro reach
    induction reach with
    | @fresh b fresh => exact ⟨b, [], fresh, rfl⟩
    | next d _ ih =>
      obtain ⟨start, ds, fresh, rfl⟩ := ih
      exact ⟨start, ds ++ [d], fresh, by simp⟩
  · rintro ⟨start, ds, fresh, rfl⟩
    exact (Reachable.fresh fresh).after ds

end SceneScript.Builder
