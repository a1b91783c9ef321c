import SceneScript.Proofs.Builder.Lockstep
import SceneScript.Scalar.Double

/-!
# The blocks of a description

A description has an options block and a world block, and after WorldEnd it is over. A directive
that is out of place, or void, is answered by one error message and nothing else
(`run_interpretAt_of_ignored`), and no other directive gives an error message.

The renderer is called when the world ends, and only then. The calls of a whole run are those of
its last builder if the run came to the end of the world, and none otherwise
(`rendererCalls_of_run`), so the renderer gets one scene at most. `block_discipline` collects what
holds after any list of directives.
-/

set_option autoImplicit false

namespace SceneScript

/-- Whether a directive may stand in a block. -/
def Directive.AllowedIn {α : Type} (d : Directive α) : Phase → Prop
  | .options => d.allowedBlock ≠ .world
  | .world => d.allowedBlock ≠ .options
  | .finished => False

theorem Directive.allowedIn_iff {α : Type} {d : Directive α} {phase : Phase} :
    d.AllowedIn phase ↔ Builder.misplaced? phase d = none := by
  cases phase <;> cases h : d.allowedBlock <;> simp [AllowedIn, Builder.misplaced?, h]

namespace BuildNotice

variable {α : Type}

/-- Whether a notice is a call of the renderer. -/
def isRendererCall : BuildNotice α → Bool
  | .message _ => false
  | _ => true

/-- Whether a notice hands a scene to the renderer. -/
def isRender : BuildNotice α → Bool
  | .render _ => true
  | _ => false

theorem isRendererCall_of_isWarning {n : BuildNotice α} (warning : n.isWarning = true) :
    n.isRendererCall = false := by
  cases n with
  | message m => rfl
  | render scene => exact absurd warning (by simp [isWarning])
  | report statistics => exact absurd warning (by simp [isWarning])

theorem isRendererCall_of_isRender {n : BuildNotice α} (render : n.isRender = true) :
    n.isRendererCall = true := by
  cases n with
  | message m => exact absurd render (by simp [isRender])
  | render scene => rfl
  | report statistics => rfl

end BuildNotice

namespace Builder

variable {α : Type} {setup : BuildSetup α} {b : Builder α}

/-! ## What the renderer hears -/

theorem isRendererCall_of_mem {n : BuildNotice α} (call : n ∈ rendererCalls setup b) :
    n.isRendererCall = true := by
  rcases List.mem_append.1 call with render | report
  · split at render
    · exact absurd render List.not_mem_nil
    · rw [List.mem_singleton.1 render]
      rfl
  · split at report
    · rw [List.mem_singleton.1 report]
      rfl
    · exact absurd report List.not_mem_nil

theorem countP_isRender_filter (ns : List (BuildNotice α)) :
    (ns.filter BuildNotice.isRendererCall).countP BuildNotice.isRender =
      ns.countP BuildNotice.isRender := by
  rw [List.countP_filter]
  refine List.countP_congr fun n _ => ?_
  rw [Bool.and_eq_true]
  exact ⟨And.left, fun render => ⟨render, BuildNotice.isRendererCall_of_isRender render⟩⟩

theorem countP_isRender_rendererCalls :
    (rendererCalls setup b).countP BuildNotice.isRender ≤ 1 := by
  unfold rendererCalls
  split <;> split <;> simp [BuildNotice.isRender, List.countP_cons]

/-- What the renderer hears on the way from one builder to another: the calls of the latter, if it
is past the end of the world and the former is not. -/
def callsBetween (setup : BuildSetup α) (b b' : Builder α) : List (BuildNotice α) :=
  if b.phase ≠ .finished ∧ b'.phase = .finished then rendererCalls setup b' else []

theorem callsBetween_of_phase_eq {b' : Builder α} (same : b'.phase = b.phase) :
    callsBetween setup b b' = [] := by
  refine if_neg ?_
  rw [same]
  exact fun ⟨before, after⟩ => before after

theorem callsBetween_of_finished {b' : Builder α} (finished : b.phase = .finished) :
    callsBetween setup b b' = [] :=
  if_neg fun h => h.1 finished

theorem filter_isRendererCall_of_warnings {ns : List (BuildNotice α)}
    (warnings : ∀ n ∈ ns, n.isWarning = true) : ns.filter BuildNotice.isRendererCall = [] := by
  rw [List.filter_eq_nil_iff]
  intro n hn
  rw [BuildNotice.isRendererCall_of_isWarning (warnings n hn)]
  exact Bool.false_ne_true

/-! ## One step -/

variable [Scalar α] {loc : Location α} {d : Directive α}
  {o : Outcome (BuildError α) (Builder α) (BuildNotice α) Unit}

theorem isWarning_of_missingEnd {scopes : List (Scope α)} :
    ∀ n ∈ scopes.map (missingEnd loc), n.isWarning = true := by
  intro n hn
  obtain ⟨s, -, rfl⟩ := List.mem_map.1 hn
  rfl

namespace StepOutcome

/-- The block only moves on, at WorldBegin and WorldEnd. -/
theorem moves (outcome : StepOutcome setup loc b d o) :
    o.state.phase = b.phase ∨
      (d = .worldBegin ∧ b.phase = .options ∧ o.state.phase = .world) ∨
      (d = .worldEnd ∧ b.phase = .world ∧ o.state.phase = .finished) := by
  cases outcome with
  | plain _ _ same _ => exact Or.inl same.phase
  | worldBegin options => exact Or.inr (Or.inl ⟨rfl, options, rfl⟩)
  | closed _ _ _ => exact Or.inl (phase_leave b _ _)
  | worldEnd world => exact Or.inr (Or.inr ⟨rfl, world, rfl⟩)
  | _ => exact Or.inl rfl

/-- An error message comes only from a directive that is out of place or void. -/
theorem of_errorMessage {m : Message α} (outcome : StepOutcome setup loc b d o)
    (said : .message m ∈ o.notices) (error : m.severity = .error) :
    ¬ d.AllowedIn b.phase ∨ d.isVoid = true := by
  have warning : ¬ (BuildNotice.message m).isWarning = true := by
    simp [BuildNotice.isWarning, error]
  cases outcome with
  | ignored why =>
    rcases why with misplaced | void
    · rw [Directive.allowedIn_iff, misplaced]
      exact Or.inl (by simp)
    · exact Or.inr void
  | plain _ _ _ warnings => exact absurd (warnings _ said) warning
  | worldEnd _ =>
    rcases List.mem_append.1 said with missing | call
    · exact absurd (isWarning_of_missingEnd _ missing) warning
    · exact absurd (isRendererCall_of_mem call) (by simp [BuildNotice.isRendererCall])
  | _ => exact absurd said List.not_mem_nil

/-- A directive calls the renderer if it is the one that ends the world. -/
theorem filter_isRendererCall (outcome : StepOutcome setup loc b d o) :
    o.notices.filter BuildNotice.isRendererCall = callsBetween setup b o.state := by
  cases outcome with
  | ignored _ => exact (callsBetween_of_phase_eq rfl).symm
  | plain _ _ same warnings =>
    rw [callsBetween_of_phase_eq same.phase]
    exact filter_isRendererCall_of_warnings warnings
  | worldBegin _ => exact (if_neg (by simp)).symm
  | closed _ _ _ => exact (callsBetween_of_phase_eq (phase_leave b _ _)).symm
  | worldEnd world =>
    have between : callsBetween setup b b.endWorld = rendererCalls setup b.endWorld :=
      if_pos ⟨by simp [world], rfl⟩
    rw [between, List.filter_append, filter_isRendererCall_of_warnings isWarning_of_missingEnd,
      List.nil_append, List.filter_eq_self]
    exact fun n call => isRendererCall_of_mem call
  | _ => exact (callsBetween_of_phase_eq rfl).symm

end StepOutcome

/-- WorldEnd in the world block gives a warning for every scope that is open, and calls the
renderer. -/
theorem run_interpret_worldEnd (lock : Lockstep b) (world : b.phase = .world)
    (loc : Location α) :
    (interpret setup .worldEnd loc).run b =
      ⟨.ok (), b.endWorld,
        b.openScopes.scopes.map (missingEnd loc) ++ rendererCalls setup b.endWorld⟩ := by
  unfold interpret
  rw [Action.run_get_bind, world]
  exact run_performWorldEnd setup lock loc

/-- A directive that is out of place or void is answered by one error message, and changes
nothing. -/
theorem run_interpretAt_of_ignored (setup : BuildSetup α) {d : LocatedDirective α}
    (ignored : ¬ d.directive.AllowedIn b.phase ∨ d.directive.isVoid = true) :
    ∃ text, (interpretAt setup d).run b = ⟨.ok (), b, [.message ⟨.error, text, some d.loc⟩]⟩ := by
  cases placed : misplaced? b.phase d.directive with
  | some text => exact ⟨text, run_interpretAt_of_misplaced placed⟩
  | none =>
    rcases ignored with misplaced | void
    · exact absurd (Directive.allowedIn_iff.2 placed) misplaced
    · obtain ⟨text, complains⟩ := perform_of_isVoid setup d.loc void
      rw [run_interpretAt_of_placed placed, complains]
      exact ⟨text, rfl⟩

/-- After the end of the world, no directive changes anything. -/
theorem next_of_finished (finished : b.phase = .finished) (d : LocatedDirective α) :
    next setup b d = b := by
  have misplaced : ¬ d.directive.AllowedIn b.phase := by
    rw [finished]
    exact id
  obtain ⟨text, run⟩ := run_interpretAt_of_ignored setup (Or.inl misplaced)
  exact congrArg Outcome.state run

/-! ## Runs -/

theorem after_of_finished (finished : b.phase = .finished) (ds : List (LocatedDirective α)) :
    after setup b ds = b := by
  induction ds with
  | nil => rfl
  | cons d rest ih => rw [after_cons, next_of_finished finished, ih]

/-- What the renderer hears during a run depends on its first and its last builder only. -/
theorem rendererCalls_of_run (reach : Reachable setup b) (ds : List (LocatedDirective α)) :
    (noticesOf setup b ds).filter BuildNotice.isRendererCall =
      callsBetween setup b (after setup b ds) := by
  induction ds generalizing b with
  | nil => exact (callsBetween_of_phase_eq rfl).symm
  | cons d rest ih =>
    have step : ((interpretAt setup d).run b).notices.filter BuildNotice.isRendererCall =
        callsBetween setup b (next setup b d) :=
      (outcome_interpretAt reach d).filter_isRendererCall
    rw [noticesOf, List.filter_append, step, ih (reach.next d), after_cons]
    -- past the end of the world the rest is silent; otherwise the first directive was
    by_cases finished : (next setup b d).phase = .finished
    · rw [after_of_finished finished, callsBetween_of_finished finished, List.append_nil]
    · have before : b.phase ≠ .finished := by
        intro past
        rw [next_of_finished past] at finished
        exact finished past
      simp only [callsBetween, before, finished, ne_eq, not_false_eq_true, and_false, true_and,
        if_false, List.nil_append]

/-- What a directive may do to a builder, given the block that the builder is in. -/
structure StepDiscipline (setup : BuildSetup α) (b : Builder α) (d : LocatedDirective α) :
    Prop where
  /-- The block only moves on. -/
  moves : (next setup b d).phase = b.phase ∨
    (d.directive = .worldBegin ∧ b.phase = .options ∧ (next setup b d).phase = .world) ∨
    (d.directive = .worldEnd ∧ b.phase = .world ∧ (next setup b d).phase = .finished)
  /-- What is out of place or void gives one error message and has no other effect. -/
  ignored : ¬ d.directive.AllowedIn b.phase ∨ d.directive.isVoid = true →
    ∃ text, (interpretAt setup d).run b = ⟨.ok (), b, [.message ⟨.error, text, some d.loc⟩]⟩
  /-- Nothing else gives an error message. -/
  complains : ∀ m, .message m ∈ ((interpretAt setup d).run b).notices → m.severity = .error →
    ¬ d.directive.AllowedIn b.phase ∨ d.directive.isVoid = true
  /-- A WorldEnd in the world block warns of every open scope and calls the renderer last. -/
  ends : d.directive = .worldEnd → b.phase = .world →
    ((interpretAt setup d).run b).result = .ok () ∧
      ((interpretAt setup d).run b).notices =
        b.openScopes.scopes.map (missingEnd d.loc) ++ rendererCalls setup (next setup b d)
  /-- Nothing else calls the renderer. -/
  silent : ¬ (d.directive = .worldEnd ∧ b.phase = .world) →
    ∀ n ∈ ((interpretAt setup d).run b).notices, n.isRendererCall = false

theorem StepDiscipline.of_reachable (reach : Reachable setup b) (d : LocatedDirective α) :
    StepDiscipline setup b d := by
  have lock := lockstep_of_reachable reach
  have outcome := outcome_interpretAt reach d
  refine ⟨outcome.moves, run_interpretAt_of_ignored setup, fun m => outcome.of_errorMessage, ?_, ?_⟩
  · intro worldEnd world
    have run : (interpretAt setup d).run b = _ :=
      worldEnd ▸ run_interpret_worldEnd lock world d.loc
    refine ⟨congrArg Outcome.result run, ?_⟩
    rw [next, run]
  · intro elsewhere n hn
    -- without WorldEnd the block does not change to the last one, so there are no calls
    have none : ((interpretAt setup d).run b).notices.filter BuildNotice.isRendererCall = [] := by
      rw [outcome.filter_isRendererCall]
      rcases outcome.moves with same | ⟨-, -, world⟩ | ⟨worldEnd, world, -⟩
      · exact callsBetween_of_phase_eq same
      · exact if_neg (by simp [world])
      · exact absurd ⟨worldEnd, world⟩ elsewhere
    rw [List.filter_eq_nil_iff] at none
    exact Bool.eq_false_iff.2 (none n hn)

/-- After any directives in turn, failed or not: the next one obeys the discipline of the blocks,
whatever it is; the renderer has been called as the last builder says if the world has come to its
end, not at all otherwise, and has got one scene at most; and past the end of the world no further
directives change the builder. -/
theorem block_discipline (setup : BuildSetup α) {start : Builder α} (fresh : Fresh start)
    (ds : List (LocatedDirective α)) :
    start.phase = .options ∧
      (∀ d, StepDiscipline setup (after setup start ds) d) ∧
      (noticesOf setup start ds).filter BuildNotice.isRendererCall =
        (if (after setup start ds).phase = .finished
          then rendererCalls setup (after setup start ds) else []) ∧
      (noticesOf setup start ds).countP BuildNotice.isRender ≤ 1 ∧
      ((after setup start ds).phase = .finished →
        ∀ more, after setup start (ds ++ more) = after setup start ds) := by
  have options : start.phase = .options := by
    obtain ⟨settings, pool, rfl⟩ := fresh
    rfl
  have reach : Reachable setup (after setup start ds) := (Reachable.fresh fresh).after ds
  have calls : (noticesOf setup start ds).filter BuildNotice.isRendererCall =
      if (after setup start ds).phase = .finished
        then rendererCalls setup (after setup start ds) else [] := by
    rw [rendererCalls_of_run (Reachable.fresh fresh)]
    simp only [callsBetween, options, ne_eq, reduceCtorEq, not_false_eq_true, true_and]
  refine ⟨options, .of_reachable reach, calls, ?_, ?_⟩
  · -- a scene is handed over in a call only, and the calls are known
    rw [← countP_isRender_filter, calls]
    split
    · exact countP_isRender_rendererCalls
    · exact Nat.zero_le 1
  · intro finished more
    rw [after_append, after_of_finished finished]

/-- Control: a world with an attribute scope that is left open, and a second WorldEnd. -/
theorem block_discipline_attribute_left_open :
    let setup : BuildSetup Float := ⟨standardHash, .sceneAndStatistics⟩
    let start : Builder Float := initial .defaults
    let ds : List (LocatedDirective Float) :=
      [⟨.worldBegin, .unknown⟩, ⟨.attributeBegin, .unknown⟩, ⟨.worldEnd, .unknown⟩,
        ⟨.worldEnd, .unknown⟩]
    Fresh start ∧ (after setup start ds).phase = .finished ∧
      (noticesOf setup start ds).filter BuildNotice.isRendererCall =
        rendererCalls setup (after setup start ds) ∧
      ∀ more, after setup start (ds ++ more) = after setup start ds := by
  intro setup start ds
  have finished : (after setup start ds).phase = .finished := rfl
  obtain ⟨-, -, calls, -, still⟩ := block_discipline setup (fresh_initial .defaults) ds
  exact ⟨fresh_initial _, finished, calls.trans (if_pos finished), still finished⟩

end Builder

end SceneScript
