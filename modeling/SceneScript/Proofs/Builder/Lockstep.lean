import SceneScript.Proofs.Builder.Outcomes
import SceneScript.Scalar.Double

/-!
# The stacks stay in lockstep

A builder has three stacks and an object definition that may be open; seven directives and the
clearing up at WorldEnd change them. `lockstep_of_reachable` shows that they always fit together,
after directives that were carried out, ignored or failed, and `stacks_in_lockstep` says what that
means for each of them. So no scope ever finds its stack empty.
-/

set_option autoImplicit false

namespace SceneScript.Builder

variable {α : Type} {b : Builder α}

namespace Lockstep

/-- An object definition is open if and only if an object scope is. -/
theorem openObject_iff (lock : Lockstep b) :
    b.openObject.isSome ↔ ∃ s ∈ b.openScopes.scopes, s.kind = .object := by
  have counted := lock.openObject
  rw [← Scope.countKind_pos_iff]
  split at counted
  · rename_i opened
    exact ⟨fun _ => by omega, fun _ => opened⟩
  · rename_i closed
    exact ⟨fun opened => absurd opened closed, fun _ => by omega⟩

/-- Outside of the world block nothing is open and nothing is saved. -/
theorem empty_outside (lock : Lockstep b) (elsewhere : b.phase ≠ .world) :
    b.openScopes.scopes = [] ∧ b.savedGraphics = [] ∧ b.savedTransforms = [] ∧
      b.openObject = none := by
  have scopes := lock.outsideWorld elsewhere
  obtain ⟨graphics, transforms, object, -⟩ := lock
  rw [scopes, Scope.countKind_nil] at graphics transforms object
  refine ⟨scopes, List.eq_nil_of_length_eq_zero graphics,
    List.eq_nil_of_length_eq_zero transforms, ?_⟩
  cases h : b.openObject with
  | none => rfl
  | some definition => simp [h] at object

/-- The End of the innermost scope takes one entry off the stack of that scope. -/
theorem leave {s : Scope α} {rest : List (Scope α)} (lock : Lockstep b)
    (scopes : b.openScopes.scopes = s :: rest) : Lockstep (b.leave rest s.kind) := by
  obtain ⟨graphics, transforms, object, outside⟩ := lock
  rw [scopes, Scope.countKind_cons] at graphics transforms object
  rw [Scope.countKind_cons] at graphics
  -- one count and one stack go down by one, each by the kind of `s`
  refine ⟨?_, ?_, ?_, ?_⟩
  · cases h : s.kind <;> simp [h, ScopeKind.savesGraphics] at graphics ⊢ <;> omega
  · cases h : s.kind <;> simp [h, ScopeKind.savesGraphics] at transforms ⊢ <;> omega
  · cases h : s.kind <;> simp [h] at object ⊢
    · exact object
    · exact object
    · split at object <;> omega
  · intro elsewhere
    rw [phase_leave] at elsewhere
    rw [outside elsewhere] at scopes
    exact absurd scopes (by simp)

/-- WorldEnd takes as much off each stack as is there. -/
theorem stacks_endWorld (lock : Lockstep b) :
    b.endWorld.openScopes.scopes = [] ∧ b.endWorld.savedGraphics = [] ∧
      b.endWorld.savedTransforms = [] ∧ b.endWorld.openObject = none := by
  obtain ⟨graphics, transforms, scopes, -⟩ := stacks_restoreAll { b with openScopes := .none }
    b.openScopes.scopes
  -- what is taken off is as long as the stack
  rw [← lock.savedGraphics, List.drop_length] at graphics
  rw [← lock.savedTransforms, List.drop_length] at transforms
  refine ⟨?_, ?_, ?_, ?_⟩
  · exact congrArg OpenScopes.scopes ((openScopes_finishObject _).trans scopes)
  · exact (savedGraphics_finishObject _).trans graphics
  · exact (savedTransforms_finishObject _).trans transforms
  · exact openObject_finishObject _

theorem endWorld (lock : Lockstep b) : Lockstep b.endWorld := by
  obtain ⟨scopes, graphics, transforms, object⟩ := lock.stacks_endWorld
  refine ⟨?_, ?_, ?_, fun _ => scopes⟩
  · simp [scopes, graphics]
  · simp [scopes, transforms]
  · simp [scopes, object]

variable [Scalar α] {setup : BuildSetup α}

theorem of_fresh (fresh : Fresh b) : Lockstep b := by
  obtain ⟨settings, pool, rfl⟩ := fresh
  exact ⟨rfl, rfl, rfl, fun _ => rfl⟩

/-- Whatever a directive comes to keeps the stacks in lockstep. -/
theorem step {loc : Location α} {d : Directive α}
    {o : Outcome (BuildError α) (Builder α) (BuildNotice α) Unit} (lock : Lockstep b)
    (outcome : StepOutcome setup loc b d o) : Lockstep o.state := by
  cases outcome with
  | ignored _ => exact lock
  | refused fault _ => exact lock
  | plain _ _ same _ => exact lock.of_sameScopes same
  | worldBegin options =>
    -- nothing was open before the world block
    have none : b.openScopes.scopes = [] := lock.outsideWorld (by simp [options])
    exact ⟨lock.savedGraphics, lock.savedTransforms, lock.openObject, fun _ => none⟩
  | attributeBegin world =>
    refine ⟨?_, ?_, ?_, fun elsewhere => absurd world elsewhere⟩
    · have := lock.savedGraphics
      simp
      omega
    · simpa using lock.savedTransforms
    · simpa using lock.openObject
  | transformBegin world =>
    refine ⟨?_, ?_, ?_, fun elsewhere => absurd world elsewhere⟩
    · simpa using lock.savedGraphics
    · simpa using lock.savedTransforms
    · simpa using lock.openObject
  | objectBegin world closed _ =>
    refine ⟨?_, ?_, ?_, fun elsewhere => absurd world elsewhere⟩
    · have := lock.savedGraphics
      simp
      omega
    · simpa using lock.savedTransforms
    · -- the object is the only one, since none was open
      have := lock.openObject
      simpa [closed] using this
  | closed _ _ scopes => exact lock.leave scopes
  | worldEnd _ => exact lock.endWorld

end Lockstep

variable [Scalar α] {setup : BuildSetup α}

/-- The stacks of every reachable builder are in lockstep. -/
theorem lockstep_of_reachable (reach : Reachable setup b) : Lockstep b := by
  induction reach with
  | fresh fresh => exact Lockstep.of_fresh fresh
  | next d _ lock => exact lock.step (outcome_interpret setup lock d.directive d.loc)

/-- What a directive comes to in a reachable builder. -/
theorem outcome_interpretAt (reach : Reachable setup b) (d : LocatedDirective α) :
    StepOutcome setup d.loc b d.directive ((interpretAt setup d).run b) :=
  outcome_interpret setup (lockstep_of_reachable reach) d.directive d.loc

/-- In every reachable builder, the saved graphics states are as many as the open attribute and
object scopes, the saved transforms as many as the open transform scopes, and an object definition
is open if and only if an object scope is, of which there is then one only. Outside of the world
block nothing is open and nothing is saved. No directive finds an empty stack. -/
theorem stacks_in_lockstep (reach : Reachable setup b) :
    b.savedGraphics.length = Scope.countKind .attributes b.openScopes.scopes +
        Scope.countKind .object b.openScopes.scopes ∧
      b.savedTransforms.length = Scope.countKind .transforms b.openScopes.scopes ∧
      (b.openObject.isSome ↔ ∃ s ∈ b.openScopes.scopes, s.kind = .object) ∧
      (b.openObject.isSome → Scope.countKind .object b.openScopes.scopes = 1) ∧
      (b.phase ≠ .world → b.openScopes.scopes = [] ∧ b.savedGraphics = [] ∧
        b.savedTransforms = [] ∧ b.openObject = none) ∧
      ∀ d e, ((interpretAt setup d).run b).result = .error e →
        e.cause ≠ .noSavedGraphics ∧ e.cause ≠ .noSavedTransforms := by
  have lock := lockstep_of_reachable reach
  refine ⟨lock.savedGraphics, lock.savedTransforms, lock.openObject_iff, ?_, lock.empty_outside,
    ?_⟩
  · intro opened
    simpa [opened] using lock.openObject
  · intro d e failed
    have full := ((outcome_interpretAt reach d).of_error failed).2
    constructor <;> intro empty <;> simp [empty, BuildFault.isEmptyStack] at full

/-- Control: an attribute, a transform and an object scope are open, and an AttributeEnd between
them failed. -/
theorem stacks_in_lockstep_three_scopes :
    let setup : BuildSetup Float := ⟨standardHash, .absent⟩
    let b := after setup (initial .defaults)
      [⟨.worldBegin, .unknown⟩, ⟨.attributeBegin, .unknown⟩, ⟨.transformBegin, .unknown⟩,
        ⟨.attributeEnd, .unknown⟩, ⟨.objectBegin "tree", .unknown⟩]
    Reachable setup b ∧ b.savedGraphics.length = 2 ∧ b.savedTransforms.length = 1 ∧
      Scope.countKind .object b.openScopes.scopes = 1 := by
  intro setup b
  have reach : Reachable setup b := (Reachable.fresh (fresh_initial _)).after _
  obtain ⟨graphics, transforms, -, object, -, -⟩ := stacks_in_lockstep reach
  exact ⟨reach, graphics, transforms, object rfl⟩

end SceneScript.Builder
