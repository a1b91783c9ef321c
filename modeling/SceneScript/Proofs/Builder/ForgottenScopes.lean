import Mathlib.Data.List.Induction
import SceneScript.Proofs.Builder.BlockDiscipline
import SceneScript.Scalar.Double

/-!
# Scopes that WorldEnd has to close

A world may end while scopes are open. WorldEnd then goes back through all of them by itself and
moves an open object into the scene last, where the End directives would have done so in turn, one
scope at a time. `worldEnd_closes_forgotten_scopes` says that nobody can tell the difference: the
renderer hears the same, the builder is the same, and only the warnings about the missing Ends come
before.

The reason is that moving an object into the scene and going back through scopes do not touch the
same parts of the builder (`finishObject_restore`). So an End that is written out only takes work
off WorldEnd (`endWorld_leave`).
-/

set_option autoImplicit false

namespace SceneScript

/-- The directive that ends a scope of a kind. -/
def ScopeKind.endDirective {α : Type} : ScopeKind → Directive α
  | .attributes => .attributeEnd
  | .transforms => .transformEnd
  | .object => .objectEnd

theorem ScopeKind.scopeRole_endDirective {α : Type} (kind : ScopeKind) :
    (kind.endDirective : Directive α).scopeRole = .closes kind := by
  cases kind <;> rfl

namespace Builder

variable {α : Type}

/-! ## The order of what an End does -/

section Order

variable (b : Builder α)

theorem finishObject_restore (kind : ScopeKind) :
    b.finishObject.restore kind = (b.restore kind).finishObject := by
  cases object : b.openObject <;> cases kind <;> cases graphics : b.savedGraphics <;>
    cases transforms : b.savedTransforms <;>
      simp [finishObject, restore, object, graphics, transforms]

theorem finishObject_restoreAll (scopes : List (Scope α)) :
    b.finishObject.restoreAll scopes = (b.restoreAll scopes).finishObject := by
  induction scopes generalizing b with
  | nil => rfl
  | cons s rest ih =>
    calc b.finishObject.restoreAll (s :: rest)
        = (b.finishObject.restore s.kind).restoreAll rest := rfl
      _ = (b.restore s.kind).finishObject.restoreAll rest := by rw [finishObject_restore]
      _ = (b.restoreAll (s :: rest)).finishObject := ih (b.restore s.kind)

/-- An object goes into the scene once. -/
@[simp] theorem finishObject_finishObject : b.finishObject.finishObject = b.finishObject := by
  cases object : b.openObject <;> simp [finishObject, object]

theorem finishObject_withOpenScopes (scopes : OpenScopes α) :
    { b with openScopes := scopes }.finishObject =
      { b.finishObject with openScopes := scopes } := by
  cases object : b.openObject <;> simp [finishObject, object]

theorem restore_withOpenScopes (scopes : OpenScopes α) (kind : ScopeKind) :
    { b with openScopes := scopes }.restore kind =
      { b.restore kind with openScopes := scopes } := by
  cases kind <;> cases graphics : b.savedGraphics <;> cases transforms : b.savedTransforms <;>
    simp [restore, graphics, transforms]

end Order

/-- The builder after the End of a scope, apart from the scopes that are still open. -/
theorem leave_withoutScopes (b : Builder α) (rest : List (Scope α)) (kind : ScopeKind) :
    { b.leave rest kind with openScopes := .none } =
      if kind = .object then ({ b with openScopes := .none }.restore kind).finishObject
      else { b with openScopes := .none }.restore kind := by
  unfold leave
  simp only [restore_withOpenScopes, finishObject_withOpenScopes]
  split <;> rfl

/-- Ending the world comes to the same whether or not the innermost scope was closed before. -/
theorem endWorld_leave {b : Builder α} {s : Scope α} {rest : List (Scope α)}
    (scopes : b.openScopes.scopes = s :: rest) : (b.leave rest s.kind).endWorld = b.endWorld := by
  have same : ({ b.leave rest s.kind with openScopes := .none }.restoreAll rest).finishObject =
      ({ b with openScopes := .none }.restoreAll (s :: rest)).finishObject := by
    rw [leave_withoutScopes]
    split
    · -- the object is in the scene already, and WorldEnd finds none to put there
      rw [finishObject_restoreAll, finishObject_finishObject]
      rfl
    · rfl
  unfold endWorld
  rw [openScopes_leave, scopes, same]

/-! ## Closing what is open -/

section Closing

variable [Scalar α] (setup : BuildSetup α) {b : Builder α}

/-- The End that fits the innermost scope closes it without a word. -/
theorem run_interpretAt_end {s : Scope α} {rest : List (Scope α)} {d : LocatedDirective α}
    (lock : Lockstep b) (world : b.phase = .world) (scopes : b.openScopes.scopes = s :: rest)
    (fits : d.directive = s.kind.endDirective) :
    (interpretAt setup d).run b = ⟨.ok (), b.leave rest s.kind, []⟩ := by
  have placed : misplaced? b.phase d.directive = none := by
    rw [world, fits]
    exact misplaced?_world_of_scope (Or.inr ⟨s.kind, s.kind.scopeRole_endDirective⟩)
  rw [run_interpretAt_of_placed placed, fits]
  cases kind : s.kind with
  | attributes => exact run_performAttributeEnd lock scopes kind
  | transforms => exact run_performTransformEnd lock scopes kind
  | object =>
    have open_ : b.openObject.isSome := lock.openObject_iff.2 ⟨s, by rw [scopes]; simp, kind⟩
    obtain ⟨definition, opened⟩ := Option.isSome_iff_exists.1 open_
    exact run_performObjectEnd lock scopes kind opened

/-- The Ends that fit the open scopes, innermost first, close them all without a word, and leave
the end of the world what it was. -/
theorem run_carryOut_ends {ends : List (LocatedDirective α)} (lock : Lockstep b)
    (world : b.phase = .world)
    (fit : ends.map (·.directive) = b.openScopes.scopes.map (·.kind.endDirective)) :
    ∃ b', (carryOut setup ends).run b = ⟨.ok (), b', []⟩ ∧ Lockstep b' ∧ b'.phase = .world ∧
      b'.openScopes.scopes = [] ∧ b'.endWorld = b.endWorld := by
  unfold carryOut
  -- every End takes the innermost scope away, and the others stay as they are
  induction ends generalizing b with
  | nil => exact ⟨b, rfl, lock, world, List.map_eq_nil_iff.1 fit.symm, rfl⟩
  | cons d ends ih =>
    cases scopes : b.openScopes.scopes with
    | nil => exact absurd fit (by simp [scopes])
    | cons s rest =>
      rw [scopes, List.map_cons, List.map_cons, List.cons.injEq] at fit
      have run := run_interpretAt_end setup lock world scopes fit.1
      obtain ⟨b', others, lock', world', none, same⟩ :=
        ih (b := b.leave rest s.kind) (lock.leave scopes) (by rwa [phase_leave])
          (by rw [openScopes_leave]; exact fit.2)
      refine ⟨b', ?_, lock', world', none, same.trans (endWorld_leave scopes)⟩
      rw [Action.run_forEach_cons_of_finished _ ends (by rw [run]), run, others]
      rfl

end Closing

/-! ## Where open scopes come from -/

/-- A directive opens one scope on top of the others, or it opens none. -/
theorem StepOutcome.scopes [Scalar α] {setup : BuildSetup α} {loc : Location α} {b : Builder α}
    {d : Directive α} {o : Outcome (BuildError α) (Builder α) (BuildNotice α) Unit}
    (lock : Lockstep b) (outcome : StepOutcome setup loc b d o) :
    (∃ kind, d.scopeRole = .opens kind ∧
        o.state.openScopes.scopes = ⟨kind, loc⟩ :: b.openScopes.scopes) ∨
      o.state.openScopes.scopes <:+ b.openScopes.scopes := by
  cases outcome with
  | plain _ _ same _ => exact Or.inr ⟨[], congrArg OpenScopes.scopes same.openScopes⟩
  | attributeBegin _ => exact Or.inl ⟨.attributes, rfl, rfl⟩
  | transformBegin _ => exact Or.inl ⟨.transforms, rfl, rfl⟩
  | objectBegin _ _ _ => exact Or.inl ⟨.object, rfl, rfl⟩
  | closed _ _ scopes =>
    refine Or.inr ?_
    rw [openScopes_leave, scopes]
    exact List.suffix_cons _ _
  | worldEnd _ =>
    refine Or.inr ?_
    rw [lock.stacks_endWorld.1]
    exact List.nil_suffix
  | _ => exact Or.inr (List.suffix_refl _)

/-- Among directives that were given to `start` in turn, there is a Begin at the location of the
scope `s` and of its kind: it found the scopes `outer` open, and what it opened is open since. -/
def BegunIn [Scalar α] (setup : BuildSetup α) (start : Builder α) (ds : List (LocatedDirective α))
    (s : Scope α) (outer : List (Scope α)) : Prop :=
  ∃ before begun later, ds = before ++ begun :: later ∧
    begun.directive.scopeRole = .opens s.kind ∧ begun.loc = s.loc ∧
    (after setup start before).openScopes.scopes = outer ∧
    ∀ meanwhile, meanwhile <+: later →
      s :: outer <:+ (after setup start (before ++ begun :: meanwhile)).openScopes.scopes

section Begun

variable [Scalar α] {setup : BuildSetup α} {start : Builder α} {s : Scope α}
  {outer : List (Scope α)}

theorem BegunIn.concat {ds : List (LocatedDirective α)} (origin : BegunIn setup start ds s outer)
    {d : LocatedDirective α}
    (still : s :: outer <:+ (after setup start (ds ++ [d])).openScopes.scopes) :
    BegunIn setup start (ds ++ [d]) s outer := by
  obtain ⟨before, begun, later, rfl, role, place, found, since⟩ := origin
  refine ⟨before, begun, later ++ [d], by simp, role, place, found, fun meanwhile part => ?_⟩
  rcases List.prefix_concat_iff.1 part with rfl | earlier
  · simpa using still
  · exact since meanwhile earlier

/-- Every scope that is open has its Begin among the directives of the run. -/
theorem begunIn_of_open (fresh : Fresh start) (ds : List (LocatedDirective α))
    (open_ : s :: outer <:+ (after setup start ds).openScopes.scopes) :
    BegunIn setup start ds s outer := by
  -- the directive given last is the Begin of the innermost scope, or there is an earlier one
  induction ds using List.reverseRecOn with
  | nil =>
    obtain ⟨settings, pool, rfl⟩ := fresh
    exact absurd (List.suffix_nil.1 open_) (by simp)
  | append_singleton ds d ih =>
    have reach : Reachable setup (after setup start ds) := (Reachable.fresh fresh).after ds
    have state : after setup start (ds ++ [d]) =
        ((interpretAt setup d).run (after setup start ds)).state := after_append setup start ds [d]
    rcases (outcome_interpretAt reach d).scopes (lockstep_of_reachable reach) with
      ⟨kind, role, scopes⟩ | fewer
    · have top := open_
      rw [state, scopes, List.suffix_cons_iff] at top
      rcases top with innermost | older
      · obtain ⟨rfl, rfl⟩ := List.cons.inj innermost
        refine ⟨ds, d, [], by simp, role, rfl, rfl, fun meanwhile part => ?_⟩
        rw [List.prefix_nil.1 part]
        exact open_
      · exact (ih older).concat open_
    · rw [← state] at fewer
      exact (ih (open_.trans fewer)).concat open_

end Begun

/-! ## The end of the world -/

variable [Scalar α]

/-- Whatever scopes a world leaves open, the fitting Ends close them, innermost first, without a
failure or a notice. WorldEnd after them leaves the same builder as WorldEnd at once, and the
renderer hears the same. The only difference is that WorldEnd at once first warns of every open
scope, innermost first, by its kind and the location of its Begin. -/
theorem worldEnd_closes_forgotten_scopes (setup : BuildSetup α) {start : Builder α}
    (fresh : Fresh start) (ds ends : List (LocatedDirective α)) (loc : Location α)
    (world : (after setup start ds).phase = .world)
    (fit : ends.map (·.directive) =
      (after setup start ds).openScopes.scopes.map (·.kind.endDirective)) :
    let b := after setup start ds
    let closing := (carryOut setup ends).run b
    let inTurn := (interpretAt setup ⟨.worldEnd, loc⟩).run closing.state
    let atOnce := (interpretAt setup ⟨.worldEnd, loc⟩).run b
    closing.result = .ok () ∧ closing.notices = [] ∧ closing.state.openScopes.scopes = [] ∧
      inTurn.result = .ok () ∧ atOnce.result = .ok () ∧ atOnce.state = inTurn.state ∧
      inTurn.notices = rendererCalls setup inTurn.state ∧
      atOnce.notices = b.openScopes.scopes.map (missingEnd loc) ++ inTurn.notices ∧
      ∀ s outer, s :: outer <:+ b.openScopes.scopes → BegunIn setup start ds s outer := by
  intro b closing inTurn atOnce
  have lock : Lockstep b := lockstep_of_reachable ((Reachable.fresh fresh).after ds)
  obtain ⟨b', run, lock', world', none, same⟩ := run_carryOut_ends setup lock world fit
  have ending : inTurn = ⟨.ok (), b.endWorld, rendererCalls setup b.endWorld⟩ := by
    have left : closing.state = b' := congrArg Outcome.state run
    have ended : (interpretAt setup ⟨.worldEnd, loc⟩).run b' = _ :=
      run_interpret_worldEnd lock' world' loc
    rw [none, same] at ended
    exact (congrArg (interpretAt setup ⟨.worldEnd, loc⟩).run left).trans ended
  have forgotten : atOnce = ⟨.ok (), b.endWorld,
      b.openScopes.scopes.map (missingEnd loc) ++ rendererCalls setup b.endWorld⟩ :=
    run_interpret_worldEnd lock world loc
  refine ⟨congrArg Outcome.result run, congrArg Outcome.notices run, ?_, ?_⟩
  · exact (congrArg (·.state.openScopes.scopes) run).trans none
  · rw [ending, forgotten]
    exact ⟨rfl, rfl, rfl, rfl, rfl, fun s outer => begunIn_of_open fresh ds⟩

/-- Control: a transform scope inside of an object inside of an attribute scope. -/
theorem worldEnd_closes_forgotten_scopes_nested :
    let setup : BuildSetup Float := ⟨standardHash, .sceneAndStatistics⟩
    let b := after setup (initial .defaults)
      [⟨.worldBegin, .unknown⟩, ⟨.attributeBegin, .unknown⟩, ⟨.objectBegin "tree", .unknown⟩,
        ⟨.transformBegin, .unknown⟩]
    let inTurn := (interpretAt setup ⟨.worldEnd, .unknown⟩).run ((carryOut setup
      [⟨.transformEnd, .unknown⟩, ⟨.objectEnd, .unknown⟩, ⟨.attributeEnd, .unknown⟩]).run b).state
    let atOnce := (interpretAt setup ⟨.worldEnd, .unknown⟩).run b
    b.phase = .world ∧ atOnce.state = inTurn.state ∧
      atOnce.notices =
        [missingEnd .unknown ⟨.transforms, .unknown⟩, missingEnd .unknown ⟨.object, .unknown⟩,
          missingEnd .unknown ⟨.attributes, .unknown⟩] ++ inTurn.notices := by
  intro setup b inTurn atOnce
  obtain ⟨-, -, -, -, -, state, -, notices, -⟩ :=
    worldEnd_closes_forgotten_scopes setup (fresh_initial .defaults)
      [⟨.worldBegin, .unknown⟩, ⟨.attributeBegin, .unknown⟩, ⟨.objectBegin "tree", .unknown⟩,
        ⟨.transformBegin, .unknown⟩]
      [⟨.transformEnd, .unknown⟩, ⟨.objectEnd, .unknown⟩, ⟨.attributeEnd, .unknown⟩] .unknown
      rfl rfl
  exact ⟨rfl, state, notices⟩

end Builder

end SceneScript
