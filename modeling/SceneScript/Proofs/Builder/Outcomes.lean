import SceneScript.Proofs.Builder.Effects

/-!
# Outcomes of directives

Everything that a directive can come to, for a builder whose stacks are in lockstep
(`outcome_interpret`). It is ignored with one error message, or it fails at once, or it is carried
out. What it does to the blocks and scopes is written out in `StepOutcome`; the directives that
leave them alone are of one case.

The directives of that case are read off their effects (`Effect.stepOutcome`). There is one lemma
for each of the others, the Begins and the Ends.
-/

set_option autoImplicit false

namespace SceneScript

/-- Whether a notice is a warning about the scene. -/
def BuildNotice.isWarning {α : Type} : BuildNotice α → Bool
  | .message m => decide (m.severity = .warning)
  | _ => false

theorem Directive.scopeRole_of_isVoid {α : Type} [Scalar α] {d : Directive α}
    (void : d.isVoid = true) : d.scopeRole = .plain := by
  cases d <;> first | rfl | exact absurd void (by simp [Directive.isVoid])

namespace Builder

variable {α : Type}

/-- The warning about a scope that WorldEnd at `loc` had to close. -/
def missingEnd [Scalar α] (loc : Location α) (s : Scope α) : BuildNotice α :=
  .message ⟨.warning, "Missing end to " ++ s.kind.beginWord ++ " from " ++ s.loc.text, some loc⟩

/-- What the renderer is told at the end: the scene, and then its statistics if the renderer wants
them and the settings do not keep them back. -/
def rendererCalls (setup : BuildSetup α) (b : Builder α) : List (BuildNotice α) :=
  (if setup.renderer = .absent then [] else [.render b.scene]) ++
    if setup.renderer = .sceneAndStatistics ∧ b.scene.settings.quiet = false
    then [.report b.statistics] else []

/-- In the world block, no Begin or End is out of place. -/
theorem misplaced?_world_of_scope {d : Directive α}
    (scope : (∃ kind, d.scopeRole = .opens kind) ∨ ∃ kind, d.scopeRole = .closes kind) :
    misplaced? .world d = none := by
  cases d <;> simp [Directive.scopeRole] at scope <;> rfl

/-- What a directive at `loc` can come to, from a builder `b`. -/
inductive StepOutcome [Scalar α] (setup : BuildSetup α) (loc : Location α) (b : Builder α) :
    Directive α → Outcome (BuildError α) (Builder α) (BuildNotice α) Unit → Prop
  /-- One error message, and nothing else. -/
  | ignored {d : Directive α} {text : String} :
      misplaced? b.phase d = some text ∨ d.isVoid = true →
      StepOutcome setup loc b d ⟨.ok (), b, [.message ⟨.error, text, some loc⟩]⟩
  /-- A failure before anything was done. -/
  | refused {d : Directive α} (fault : BuildFault α) :
      fault.isEmptyStack = false → StepOutcome setup loc b d ⟨.error ⟨loc, fault⟩, b, []⟩
  | plain {d : Directive α} {b' : Builder α} {ns : List (BuildNotice α)} :
      d.scopeRole = .plain → b.phase ≠ .finished → SameScopes b b' →
      (∀ n ∈ ns, n.isWarning = true) → StepOutcome setup loc b d ⟨.ok (), b', ns⟩
  | worldBegin : b.phase = .options →
      StepOutcome setup loc b .worldBegin
        ⟨.ok (),
          { b with
            phase := .world
            graphics := { b.graphics with ctm := .identity, active := .all }
            coordinateSystems := b.coordinateSystems.insert "world" .identity }, []⟩
  | attributeBegin : b.phase = .world →
      StepOutcome setup loc b .attributeBegin
        ⟨.ok (),
          { b with
            savedGraphics := b.graphics :: b.savedGraphics
            openScopes := b.openScopes.push .attributes loc }, []⟩
  | transformBegin : b.phase = .world →
      StepOutcome setup loc b .transformBegin
        ⟨.ok (),
          { b with
            savedTransforms := ⟨b.graphics.ctm, b.graphics.active⟩ :: b.savedTransforms
            openScopes := b.openScopes.push .transforms loc }, []⟩
  | objectBegin {name : String} : b.phase = .world → b.openObject = none →
      b.scene.objects.contains name = false →
      StepOutcome setup loc b (.objectBegin name)
        ⟨.ok (),
          { b with
            savedGraphics := b.graphics :: b.savedGraphics
            openScopes := b.openScopes.push .object loc
            graphics := b.graphics.handDown .shape [objectName b.graphics name loc]
            openObject := some ⟨name, loc, [], []⟩ }, []⟩
  | closed {d : Directive α} {s : Scope α} {rest : List (Scope α)} :
      d.scopeRole = .closes s.kind → b.phase = .world → b.openScopes.scopes = s :: rest →
      StepOutcome setup loc b d ⟨.ok (), b.leave rest s.kind, []⟩
  | worldEnd : b.phase = .world →
      StepOutcome setup loc b .worldEnd
        ⟨.ok (), b.endWorld,
          b.openScopes.scopes.map (missingEnd loc) ++ rendererCalls setup b.endWorld⟩

namespace StepOutcome

variable [Scalar α] {setup : BuildSetup α} {loc : Location α} {b : Builder α} {d : Directive α}
  {o : Outcome (BuildError α) (Builder α) (BuildNotice α) Unit}

/-- A directive that fails leaves the builder as it was and gives no notice. -/
theorem of_error {e : BuildError α} (outcome : StepOutcome setup loc b d o)
    (failed : o.result = .error e) : o = ⟨.error e, b, []⟩ ∧ e.cause.isEmptyStack = false := by
  cases outcome with
  | refused fault full =>
    obtain rfl := Except.error.inj failed
    exact ⟨rfl, full⟩
  | _ => exact absurd failed (by simp)

theorem closed_of_kind {kind : ScopeKind} {s : Scope α} {rest : List (Scope α)}
    (role : d.scopeRole = .closes kind) (world : b.phase = .world)
    (scopes : b.openScopes.scopes = s :: rest) (same : s.kind = kind) :
    StepOutcome setup loc b d ⟨.ok (), b.leave rest kind, []⟩ := by
  subst same
  exact .closed role world scopes

/-- A Begin in the world block that does not fail opens a scope, which saves the graphics state or
the transforms. -/
theorem of_opens {kind : ScopeKind} (outcome : StepOutcome setup loc b d o)
    (role : d.scopeRole = .opens kind) (world : b.phase = .world) (done : o.result = .ok ()) :
    o.state.phase = .world ∧ o.state.openScopes.scopes = ⟨kind, loc⟩ :: b.openScopes.scopes ∧
      o.state.savedGraphics =
        (if kind.savesGraphics then b.graphics :: b.savedGraphics else b.savedGraphics) ∧
      o.state.savedTransforms =
        (if kind.savesGraphics then b.savedTransforms
          else ⟨b.graphics.ctm, b.graphics.active⟩ :: b.savedTransforms) := by
  cases outcome with
  | ignored why =>
    -- a Begin is not out of place in the world block, and it is not void
    rcases why with misplaced | void
    · rw [world, misplaced?_world_of_scope (Or.inl ⟨kind, role⟩)] at misplaced
      exact absurd misplaced (by simp)
    · rw [Directive.scopeRole_of_isVoid void] at role
      exact absurd role (by simp)
  | refused _ _ => exact absurd done (by simp)
  | plain plain _ _ _ =>
    rw [plain] at role
    exact absurd role (by simp)
  | worldBegin _ => exact absurd role (by simp [Directive.scopeRole])
  | attributeBegin _ =>
    obtain rfl : ScopeKind.attributes = kind := ScopeRole.opens.inj role
    exact ⟨world, rfl, rfl, rfl⟩
  | transformBegin _ =>
    obtain rfl : ScopeKind.transforms = kind := ScopeRole.opens.inj role
    exact ⟨world, rfl, rfl, rfl⟩
  | objectBegin _ _ _ =>
    obtain rfl : ScopeKind.object = kind := ScopeRole.opens.inj role
    exact ⟨world, rfl, rfl, rfl⟩
  | closed closes _ _ =>
    rw [closes] at role
    exact absurd role (by simp)
  | worldEnd _ => exact absurd role (by simp [Directive.scopeRole])

/-- An End in the world block that does not fail closes the innermost scope. -/
theorem of_closes {kind : ScopeKind} (outcome : StepOutcome setup loc b d o)
    (role : d.scopeRole = .closes kind) (world : b.phase = .world) (done : o.result = .ok ()) :
    ∃ s rest, b.openScopes.scopes = s :: rest ∧ s.kind = kind ∧ o.state = b.leave rest kind := by
  cases outcome with
  | ignored why =>
    rcases why with misplaced | void
    · rw [world, misplaced?_world_of_scope (Or.inr ⟨kind, role⟩)] at misplaced
      exact absurd misplaced (by simp)
    · rw [Directive.scopeRole_of_isVoid void] at role
      exact absurd role (by simp)
  | refused _ _ => exact absurd done (by simp)
  | plain plain _ _ _ =>
    rw [plain] at role
    exact absurd role (by simp)
  | closed closes _ scopes =>
    rw [closes] at role
    obtain rfl := ScopeRole.closes.inj role
    exact ⟨_, _, scopes, rfl, rfl⟩
  | _ => exact absurd role (by simp [Directive.scopeRole])

end StepOutcome

/-! ## Directives that leave the scopes alone -/

section Plain

variable {loc : Location α} {b : Builder α}

theorem sameScopes_addStillShape (b : Builder α) (s : StillShape α) :
    SameScopes b (b.addStillShape s) := by
  cases opened : b.openObject with
  | none =>
    rw [addStillShape_of_none opened]
    exact ⟨rfl, rfl, rfl, rfl, rfl⟩
  | some o =>
    rw [addStillShape_of_some opened]
    exact ⟨rfl, rfl, rfl, rfl, by simp [opened]⟩

theorem sameScopes_addMovingShape (b : Builder α) (s : MovingShape α) :
    SameScopes b (b.addMovingShape s) := by
  cases opened : b.openObject with
  | none =>
    rw [addMovingShape_of_none opened]
    exact ⟨rfl, rfl, rfl, rfl, rfl⟩
  | some o =>
    rw [addMovingShape_of_some opened]
    exact ⟨rfl, rfl, rfl, rfl, by simp [opened]⟩

theorem sameScopes_lightUp (b : Builder α) (pool : TransformPool α) :
    SameScopes b (b.lightUp.withPool pool) :=
  ⟨rfl, rfl, rfl, rfl, rfl⟩

theorem isWarning_of_mem_lightWarnings :
    ∀ n ∈ lightWarnings loc b, n.isWarning = true := by
  unfold lightWarnings
  split <;> simp [BuildNotice.isWarning]

variable [Scalar α] {setup : BuildSetup α} {d : Directive α}
  {o : Outcome (BuildError α) (Builder α) (BuildNotice α) Unit}

theorem isWarning_of_mem_mediumWarnings :
    ∀ n ∈ mediumWarnings loc b, n.isWarning = true := by
  unfold mediumWarnings
  split <;> simp [BuildNotice.isWarning]

/-- What a directive comes to that opens no scope and closes none. -/
theorem Effect.stepOutcome (effect : Effect setup loc b d o) (plain : d.scopeRole = .plain)
    (active : b.phase ≠ .finished) : StepOutcome setup loc b d o := by
  cases effect with
  | ignored void => exact .ignored (Or.inr void)
  | refused fault full => exact .refused fault full
  | unknownCoordSys _ => exact .plain plain active (.refl b) (by simp [BuildNotice.isWarning])
  | makeNamedMedium _ =>
    exact .plain plain active ⟨rfl, rfl, rfl, rfl, rfl⟩ isWarning_of_mem_mediumWarnings
  | stillShape _ =>
    refine .plain plain active ?_ isWarning_of_mem_lightWarnings
    exact (sameScopes_lightUp b _).trans (sameScopes_addStillShape _ _)
  | movingShape _ =>
    refine .plain plain active ?_ isWarning_of_mem_lightWarnings
    exact (sameScopes_lightUp b _).trans (sameScopes_addMovingShape _ _)
  | _ => exact .plain plain active ⟨rfl, rfl, rfl, rfl, rfl⟩ (by simp)

end Plain

/-- A void directive is answered by an error message. -/
theorem perform_of_isVoid [Scalar α] (setup : BuildSetup α) (loc : Location α) {d : Directive α}
    (void : d.isVoid = true) :
    ∃ text, perform setup loc d = complain loc text := by
  cases d with
  | lookAt eye look up =>
    have degenerate : Transform.lookAt? eye look up = none := Option.isNone_iff_eq_none.1 void
    simp only [perform, performLookAt, degenerate]
    exact ⟨_, rfl⟩
  | colorSpace name =>
    have unknown : ColorSpace.ofName? name = none := Option.isNone_iff_eq_none.1 void
    simp only [perform, performColorSpace, unknown]
    exact ⟨_, rfl⟩
  | _ => exact absurd void (by simp [Directive.isVoid])

/-! ## Directives that open and close scopes -/

theorem outcome_performObjectBegin [Scalar α] {setup : BuildSetup α} {loc : Location α}
    {b : Builder α} (world : b.phase = .world) (name : String) :
    StepOutcome setup loc b (.objectBegin name) ((performObjectBegin loc name).run b) := by
  unfold performObjectBegin
  rw [Action.run_get_bind]
  split
  · exact .refused _ rfl
  · rename_i closed
    cases h : b.scene.objects.contains name with
    | true => exact .refused (.objectRedefined name) rfl
    | false => exact .objectBegin world closed h

section Close

variable {b : Builder α}

/-- What saves the graphics state can restore it. -/
theorem run_restoreGraphics (kind : ScopeKind) (loc : Location α)
    (saves : kind.savesGraphics = true) (saved : b.savedGraphics ≠ []) :
    (restoreGraphics loc).run b = ⟨.ok (), b.restore kind, []⟩ := by
  unfold restoreGraphics
  rw [Action.run_get_bind]
  cases h : b.savedGraphics with
  | nil => exact absurd h saved
  | cons g rest => cases kind <;> simp_all [restore, ScopeKind.savesGraphics]

theorem run_closeObject {definition : ObjectDefinition α}
    (opened : b.openObject = some definition) :
    (closeObject definition).run b = ⟨.ok (), b.finishObject, []⟩ := by
  rw [finishObject_of_some opened]
  rfl

/-- An End that closes no scope fails at once; another one takes away the innermost scope. -/
theorem run_closeScope (kind : ScopeKind) (loc : Location α) :
    (∃ reason, (closeScope kind loc).run b = ⟨.error ⟨loc, .scope reason⟩, b, []⟩) ∨
      ∃ s rest, b.openScopes.scopes = s :: rest ∧ s.kind = kind ∧
        (closeScope kind loc).run b = ⟨.ok (), { b with openScopes := ⟨rest⟩ }, []⟩ := by
  unfold closeScope
  rw [Action.run_get_bind]
  cases h : b.openScopes.pop kind with
  | error reason => exact Or.inl ⟨reason, rfl⟩
  | ok closed =>
    obtain ⟨s, rest⟩ := closed
    obtain ⟨scopes, same⟩ := OpenScopes.pop_eq_ok_iff.1 h
    exact Or.inr ⟨s, rest.scopes, scopes, same, rfl⟩

/-- The End of the innermost scope takes that scope away. -/
theorem run_closeScope_of_innermost {s : Scope α} {rest : List (Scope α)} (loc : Location α)
    (scopes : b.openScopes.scopes = s :: rest) :
    (closeScope s.kind loc).run b = ⟨.ok (), { b with openScopes := ⟨rest⟩ }, []⟩ := by
  have popped : b.openScopes.pop s.kind = .ok (s, ⟨rest⟩) := OpenScopes.pop_eq_ok_iff.2 ⟨scopes, rfl⟩
  unfold closeScope
  rw [Action.run_get_bind, popped]
  rfl

variable {loc : Location α} (lock : Lockstep b)

section Innermost

variable {s : Scope α} {rest : List (Scope α)} (scopes : b.openScopes.scopes = s :: rest)

include lock scopes

theorem run_performAttributeEnd (kind : s.kind = .attributes) :
    (performAttributeEnd loc).run b = ⟨.ok (), b.leave rest .attributes, []⟩ := by
  have closed := run_closeScope_of_innermost loc scopes
  rw [kind] at closed
  have saved : b.savedGraphics ≠ [] := lock.savedGraphics_ne_nil scopes (by rw [kind]; rfl)
  have restored := run_restoreGraphics (b := { b with openScopes := ⟨rest⟩ }) .attributes loc rfl
    saved
  unfold performAttributeEnd
  rw [Action.run_bind_of_eq_ok closed, restored]
  rfl

theorem run_performTransformEnd (kind : s.kind = .transforms) :
    (performTransformEnd loc).run b = ⟨.ok (), b.leave rest .transforms, []⟩ := by
  have closed := run_closeScope_of_innermost loc scopes
  rw [kind] at closed
  have saved : b.savedTransforms ≠ [] := lock.savedTransforms_ne_nil scopes (by rw [kind]; rfl)
  unfold performTransformEnd
  rw [Action.run_bind_of_eq_ok closed, Action.run_get_bind]
  cases h : b.savedTransforms with
  | nil => exact absurd h saved
  | cons t ts =>
    simp only [leave, restore, h]
    rfl

theorem run_performObjectEnd (kind : s.kind = .object) {definition : ObjectDefinition α}
    (opened : b.openObject = some definition) :
    (performObjectEnd loc).run b = ⟨.ok (), b.leave rest .object, []⟩ := by
  have closed := run_closeScope_of_innermost loc scopes
  rw [kind] at closed
  have saved : b.savedGraphics ≠ [] := lock.savedGraphics_ne_nil scopes (by rw [kind]; rfl)
  have restored := run_restoreGraphics (b := { b with openScopes := ⟨rest⟩ }) .object loc rfl saved
  have finished := run_closeObject
    (b := { b with openScopes := ⟨rest⟩ }.restore .object) (by simpa using opened)
  unfold performObjectEnd
  -- the stack is taken down first, and the object goes to the scene last
  simp only [Action.run_get_bind, opened]
  rw [Action.run_bind_of_eq_ok closed, Action.run_bind_of_eq_ok restored, finished]
  rfl

end Innermost

variable [Scalar α] {setup : BuildSetup α} (world : b.phase = .world)

include lock world

theorem outcome_performAttributeEnd :
    StepOutcome setup loc b .attributeEnd ((performAttributeEnd loc).run b) := by
  rcases run_closeScope (b := b) .attributes loc with ⟨reason, run⟩ | ⟨s, rest, scopes, kind, -⟩
  · unfold performAttributeEnd
    rw [Action.run_bind_of_eq_error run]
    exact .refused _ rfl
  · rw [run_performAttributeEnd lock scopes kind]
    exact .closed_of_kind rfl world scopes kind

theorem outcome_performTransformEnd :
    StepOutcome setup loc b .transformEnd ((performTransformEnd loc).run b) := by
  rcases run_closeScope (b := b) .transforms loc with ⟨reason, run⟩ | ⟨s, rest, scopes, kind, -⟩
  · unfold performTransformEnd
    rw [Action.run_bind_of_eq_error run]
    exact .refused _ rfl
  · rw [run_performTransformEnd lock scopes kind]
    exact .closed_of_kind rfl world scopes kind

theorem outcome_performObjectEnd :
    StepOutcome setup loc b .objectEnd ((performObjectEnd loc).run b) := by
  rcases run_closeScope (b := b) .object loc with ⟨reason, run⟩ | ⟨s, rest, scopes, kind, -⟩
  · unfold performObjectEnd
    rw [Action.run_get_bind]
    split
    · exact .refused _ rfl
    · rw [Action.run_bind_of_eq_error run]
      exact .refused _ rfl
  · cases opened : b.openObject with
    | none =>
      unfold performObjectEnd
      simp only [Action.run_get_bind, opened]
      exact .refused _ rfl
    | some definition =>
      rw [run_performObjectEnd lock scopes kind opened]
      exact .closed_of_kind rfl world scopes kind

end Close

/-! ## The end of the world -/

section WorldEnd

variable (setup : BuildSetup α) {b : Builder α}

theorem run_handOver : (handOver setup).run b = ⟨.ok (), b, rendererCalls setup b⟩ := by
  unfold handOver rendererCalls
  rw [Action.run_get_bind]
  cases setup.renderer with
  | absent => rfl
  | sceneOnly => rfl
  | sceneAndStatistics => cases h : b.scene.settings.quiet <;> simp [Action.run_bind]

variable [Scalar α]

theorem run_closeForgotten (loc : Location α) (s : Scope α)
    (saved : s.kind.savesGraphics = true → b.savedGraphics ≠ []) :
    (closeForgotten loc s).run b = ⟨.ok (), b.restore s.kind, [missingEnd loc s]⟩ := by
  have warned : (warn loc ("Missing end to " ++ s.kind.beginWord ++ " from " ++ s.loc.text)).run b =
      ⟨.ok (), b, [missingEnd loc s]⟩ := rfl
  unfold closeForgotten
  rw [Action.run_bind_of_eq_ok warned]
  cases h : s.kind with
  | transforms =>
    simp only [Action.run_get_bind, restore]
    cases b.savedTransforms <;> rfl
  | attributes =>
    have restored := run_restoreGraphics .attributes loc rfl (saved (by rw [h]; rfl))
    simp only [restored, List.append_nil]
  | object =>
    have restored := run_restoreGraphics .object loc rfl (saved (by rw [h]; rfl))
    simp only [restored, List.append_nil]

/-- Closing forgotten scopes goes back through all of them, with a warning for each, if enough
graphics states are saved. -/
theorem run_forEach_closeForgotten (loc : Location α) (scopes : List (Scope α))
    (enough : Scope.countKind .attributes scopes + Scope.countKind .object scopes
      ≤ b.savedGraphics.length) :
    (Action.forEach (closeForgotten loc) scopes).run b =
      ⟨.ok (), b.restoreAll scopes, scopes.map (missingEnd loc)⟩ := by
  induction scopes generalizing b with
  | nil => rfl
  | cons s rest ih =>
    rw [Scope.countKind_cons, Scope.countKind_cons] at enough
    have saved : s.kind.savesGraphics = true → b.savedGraphics ≠ [] := by
      intro saves empty
      rw [empty, List.length_nil] at enough
      cases h : s.kind <;> simp [h, ScopeKind.savesGraphics] at saves enough
    -- going back through `s` leaves enough for the scopes further out
    have run := run_closeForgotten loc s saved
    have others : (Action.forEach (closeForgotten loc) rest).run (b.restore s.kind) =
        ⟨.ok (), (b.restore s.kind).restoreAll rest, rest.map (missingEnd loc)⟩ := by
      refine ih ?_
      rw [savedGraphics_restore]
      cases h : s.kind <;> simp [h, ScopeKind.savesGraphics] at enough ⊢ <;> omega
    rw [Action.run_forEach_cons_of_finished _ rest (by rw [run]), run, others]
    rfl

theorem run_performWorldEnd (lock : Lockstep b) (loc : Location α) :
    (performWorldEnd setup loc).run b =
      ⟨.ok (), b.endWorld,
        b.openScopes.scopes.map (missingEnd loc) ++ rendererCalls setup b.endWorld⟩ := by
  -- lockstep says that there are as many saved graphics states as scopes to go back through
  have forgotten := run_forEach_closeForgotten (b := { b with openScopes := .none }) loc
    b.openScopes.scopes (Nat.le_of_eq lock.savedGraphics.symm)
  have closing : (closeEverything loc).run b =
      ⟨.ok (), ({ b with openScopes := .none }.restoreAll b.openScopes.scopes).finishObject,
        b.openScopes.scopes.map (missingEnd loc)⟩ := by
    unfold closeEverything
    rw [Action.run_get_bind, Action.run_bind_of_eq_ok (Action.run_modify _ _)]
    simp only [OpenScopes.closeAll]
    rw [Action.run_bind_of_eq_ok forgotten, Action.run_get_bind]
    cases h : ({ b with openScopes := .none }.restoreAll b.openScopes.scopes).openObject with
    | none => simp [finishObject_of_none h]
    | some definition => simp [run_closeObject h]
  unfold performWorldEnd
  rw [Action.run_bind_of_eq_ok closing, Action.run_bind_of_eq_ok (run_handOver setup)]
  simp [endWorld, rendererCalls, statistics]

end WorldEnd

/-! ## All directives -/

section All

variable {setup : BuildSetup α} {b : Builder α} {d : Directive α}

theorem phase_ne_finished_of_placed (placed : misplaced? b.phase d = none) :
    b.phase ≠ .finished := by
  intro finished
  simp [misplaced?, finished] at placed

theorem phase_eq_world_of_placed (placed : misplaced? b.phase d = none)
    (block : d.allowedBlock = .world) : b.phase = .world := by
  cases h : b.phase <;> simp [misplaced?, h, block] at placed ⊢

theorem phase_eq_options_of_placed (placed : misplaced? b.phase d = none)
    (block : d.allowedBlock = .options) : b.phase = .options := by
  cases h : b.phase <;> simp [misplaced?, h, block] at placed ⊢

variable [Scalar α]

/-- What a directive comes to where it is allowed. -/
theorem outcome_perform (lock : Lockstep b) (loc : Location α)
    (placed : misplaced? b.phase d = none) :
    StepOutcome setup loc b d ((perform setup loc d).run b) := by
  by_cases plain : d.scopeRole = .plain
  · exact (effect_perform setup loc plain).stepOutcome plain (phase_ne_finished_of_placed placed)
  -- what is left are the Begins and the Ends
  cases d <;> first | exact absurd rfl plain | unfold perform
  case worldBegin => exact .worldBegin (phase_eq_options_of_placed placed rfl)
  case worldEnd =>
    rw [run_performWorldEnd setup lock loc]
    exact .worldEnd (phase_eq_world_of_placed placed rfl)
  case attributeBegin => exact .attributeBegin (phase_eq_world_of_placed placed rfl)
  case attributeEnd => exact outcome_performAttributeEnd lock (phase_eq_world_of_placed placed rfl)
  case transformBegin => exact .transformBegin (phase_eq_world_of_placed placed rfl)
  case transformEnd => exact outcome_performTransformEnd lock (phase_eq_world_of_placed placed rfl)
  case objectBegin name =>
    exact outcome_performObjectBegin (phase_eq_world_of_placed placed rfl) name
  case objectEnd => exact outcome_performObjectEnd lock (phase_eq_world_of_placed placed rfl)

/-- What a directive comes to, wherever it stands. -/
theorem outcome_interpret (setup : BuildSetup α) (lock : Lockstep b) (d : Directive α)
    (loc : Location α) :
    StepOutcome setup loc b d ((interpret setup d loc).run b) := by
  unfold interpret
  rw [Action.run_get_bind]
  cases h : misplaced? b.phase d with
  | some text => exact .ignored (Or.inl h)
  | none => exact outcome_perform lock loc h

end All

end Builder

end SceneScript
