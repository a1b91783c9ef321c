import SceneScript.Proofs.Builder.Filing
import SceneScript.Proofs.Geometry.Lookups

/-!
# Where transforms come from

An entity keeps its transforms as handles, which it gets from the pool when it is declared. This
module says what a directive does to the pool and to the move from world to render space: most
directives leave both alone, a directive that adds an entity looks up the transforms of that entity
(`lookupsOf`) and nothing else, and Camera fixes render space anew (`placing_next`).

`Change` lists the builders that a directive can leave. It puts the effects of directives and the
outcomes of Begins and Ends side by side, so that what every directive keeps is shown by cases.
-/

set_option autoImplicit false

namespace SceneScript

/-- The transforms of a pair, in the order in which they are looked up. -/
def TransformPair.toList {α : Type} (s : TransformPair α) : List (Transform α) :=
  [s.opening, s.closing]

namespace Builder

variable {α : Type}

/-! ## The builder after a directive -/

section Change

variable [Scalar α]

/-- The builders that a directive can leave behind when it is given to a builder `b`. -/
inductive Change (setup : BuildSetup α) (b : Builder α) (d : LocatedDirective α) :
    Builder α → Prop
  | nothing : Change setup b d b
  | effect {o : Outcome (BuildError α) (Builder α) (BuildNotice α) Unit} :
      misplaced? b.phase d.directive = none → Effect setup d.loc b d.directive o →
      Change setup b d o.state
  | worldBegin : d.directive = .worldBegin → b.phase = .options →
      Change setup b d
        { b with
          phase := .world
          graphics := { b.graphics with ctm := .identity, active := .all }
          coordinateSystems := b.coordinateSystems.insert "world" .identity }
  | attributeBegin :
      Change setup b d
        { b with
          savedGraphics := b.graphics :: b.savedGraphics
          openScopes := b.openScopes.push .attributes d.loc }
  | transformBegin :
      Change setup b d
        { b with
          savedTransforms := ⟨b.graphics.ctm, b.graphics.active⟩ :: b.savedTransforms
          openScopes := b.openScopes.push .transforms d.loc }
  | objectBegin {name : String} :
      Change setup b d
        { b with
          savedGraphics := b.graphics :: b.savedGraphics
          openScopes := b.openScopes.push .object d.loc
          graphics := b.graphics.handDown .shape [objectName b.graphics name d.loc]
          openObject := some ⟨name, d.loc, [], []⟩ }
  | leave (rest : List (Scope α)) (kind : ScopeKind) : Change setup b d (b.leave rest kind)
  | endWorld : Change setup b d b.endWorld

variable {setup : BuildSetup α} {b : Builder α}

/-- A directive leaves a reachable builder in one of these ways. -/
theorem change_next (reach : Reachable setup b) (d : LocatedDirective α) :
    Change setup b d (next setup b d) := by
  by_cases plain : d.directive.scopeRole = .plain
  · cases placed : misplaced? b.phase d.directive with
    | some text =>
      rw [next_of_misplaced placed]
      exact .nothing
    | none =>
      rw [next_of_placed placed]
      exact .effect placed (effect_perform setup d.loc plain)
  · have outcome := outcome_interpretAt reach d
    unfold next
    generalize (interpretAt setup d).run b = o at outcome ⊢
    generalize which : d.directive = directive at plain outcome
    cases outcome with
    | ignored _ => exact .nothing
    | refused _ _ => exact .nothing
    | plain contradicts _ _ _ => exact absurd contradicts plain
    | worldBegin options => exact .worldBegin which options
    | attributeBegin _ => exact .attributeBegin
    | transformBegin _ => exact .transformBegin
    | objectBegin _ _ _ => exact .objectBegin
    | closed _ _ _ => exact .leave _ _
    | worldEnd _ => exact .endWorld

end Change

/-! ## What places entities -/

/-- Two builders with the same pool, the same render space and the same camera. -/
structure SamePlacing (b b' : Builder α) : Prop where
  pool : b'.pool = b.pool
  renderFromWorld : b'.renderFromWorld = b.renderFromWorld
  camera : b'.scene.camera = b.scene.camera

namespace SamePlacing

variable {b c d : Builder α}

theorem refl (b : Builder α) : SamePlacing b b :=
  ⟨rfl, rfl, rfl⟩

theorem trans (h : SamePlacing b c) (k : SamePlacing c d) : SamePlacing b d :=
  ⟨k.pool.trans h.pool, k.renderFromWorld.trans h.renderFromWorld, k.camera.trans h.camera⟩

theorem restore (b : Builder α) (kind : ScopeKind) : SamePlacing b (b.restore kind) := by
  cases kind <;> simp only [Builder.restore] <;> split <;> exact ⟨rfl, rfl, rfl⟩

theorem finishObject (b : Builder α) : SamePlacing b b.finishObject := by
  unfold Builder.finishObject
  split <;> exact ⟨rfl, rfl, rfl⟩

theorem restoreAll (b : Builder α) (scopes : List (Scope α)) :
    SamePlacing b (b.restoreAll scopes) := by
  induction scopes generalizing b with
  | nil => exact .refl b
  | cons s rest ih => exact (restore b s.kind).trans (ih (b.restore s.kind))

theorem leave (b : Builder α) (rest : List (Scope α)) (kind : ScopeKind) :
    SamePlacing b (b.leave rest kind) := by
  have restored : SamePlacing b ({ b with openScopes := ⟨rest⟩ }.restore kind) :=
    have same := restore { b with openScopes := ⟨rest⟩ } kind
    ⟨same.pool, same.renderFromWorld, same.camera⟩
  unfold Builder.leave
  split
  · exact restored.trans (finishObject _)
  · exact restored

theorem endWorld (b : Builder α) : SamePlacing b b.endWorld := by
  obtain ⟨pool, renderFromWorld, camera⟩ :=
    (restoreAll { b with openScopes := .none } b.openScopes.scopes).trans (finishObject _)
  exact ⟨pool, renderFromWorld, camera⟩

theorem addStillShape (b : Builder α) (s : StillShape α) : SamePlacing b (b.addStillShape s) := by
  unfold Builder.addStillShape
  split <;> exact ⟨rfl, rfl, rfl⟩

theorem addMovingShape (b : Builder α) (s : MovingShape α) :
    SamePlacing b (b.addMovingShape s) := by
  unfold Builder.addMovingShape
  split <;> exact ⟨rfl, rfl, rfl⟩

end SamePlacing

variable [Scalar α]

/-- The transforms that a directive looks up when it is carried out, in order. A shape that stands
still looks up the inverse of the copy that the pool has of its transform. -/
def lookupsOf (setup : BuildSetup α) (b : Builder α) : Directive α → List (Transform α)
  | .camera _ _ =>
    (renderFromCamera b.graphics.ctm b.renderFromWorldHere).toList ++
      b.graphics.ctm.inverse.toList
  | .texture _ _ _ _ | .makeNamedMedium _ _ | .lightSource _ _ => b.renderFromObject.toList
  | .shape _ _ =>
    if b.graphics.ctm.moves then b.renderFromObject.toList ++ [.identity]
    else
      [b.renderFromObject.opening,
        (b.pool.intern setup.hashOf b.renderFromObject.opening).1.transform.inverse]
  | .objectInstance _ =>
    if b.graphics.ctm.moves then b.renderFromInstance.toList else [b.renderFromInstance.opening]
  | _ => []

/-- What a directive does to the pool, to render space and to the camera. -/
inductive Placing (setup : BuildSetup α) (b : Builder α) (d : LocatedDirective α) :
    Builder α → Prop
  | same {b' : Builder α} : SamePlacing b b' → Placing setup b d b'
  | lookups {b' : Builder α} :
      SamePlacing
        (b.withPool (b.pool.afterLookups setup.hashOf (lookupsOf setup b d.directive))) b' →
      Placing setup b d b'
  | camera {name : String} {params : List (Param α)} : d.directive = .camera name params →
      b.phase = .options →
      Placing setup b d
        { b with
          renderFromWorld := b.renderFromWorldHere
          coordinateSystems := b.coordinateSystems.insert "camera" b.graphics.ctm.inverse
          pool := (placedCamera setup d.loc name params b).2
          scene := { b.scene with camera := some (placedCamera setup d.loc name params b).1 } }

variable {setup : BuildSetup α} {b b' : Builder α} {d : LocatedDirective α}

theorem Placing.of_effect {o : Outcome (BuildError α) (Builder α) (BuildNotice α) Unit}
    (placed : misplaced? b.phase d.directive = none)
    (effect : Effect setup d.loc b d.directive o) : Placing setup b d o.state := by
  obtain ⟨directive, loc⟩ := d
  cases effect with
  | camera => exact .camera rfl (phase_eq_options_of_placed placed rfl)
  | image part =>
    cases directive with
    | film | sampler | pixelFilter | integrator | accelerator =>
      obtain ⟨-, -, rfl⟩ := part
      exact .same ⟨rfl, rfl, rfl⟩
    | _ => exact absurd part (by simp [Directive.imagePart?])
  | @texture _ _ _ _ kind _ _ => cases kind <;> exact .lookups ⟨rfl, rfl, rfl⟩
  | makeNamedMedium _ => exact .lookups ⟨rfl, rfl, rfl⟩
  | lightSource => exact .lookups ⟨rfl, rfl, rfl⟩
  | @stillShape name params still =>
    have looked : lookupsOf setup b (.shape name params) = _ := if_neg (by simp [still])
    refine .lookups ?_
    rw [looked]
    have added := SamePlacing.addStillShape
      (b.lightUp.withPool (stillShape setup loc name params b).2)
      (stillShape setup loc name params b).1
    exact ⟨added.pool, added.renderFromWorld, added.camera⟩
  | @movingShape name params moves =>
    have looked : lookupsOf setup b (.shape name params) = _ := if_pos moves
    refine .lookups ?_
    rw [looked]
    have added := SamePlacing.addMovingShape
      (b.lightUp.withPool (movingShape setup loc name params b).2)
      (movingShape setup loc name params b).1
    exact ⟨added.pool, added.renderFromWorld, added.camera⟩
  | objectInstance _ _ =>
    refine .lookups ⟨?_, rfl, rfl⟩
    unfold placementHere internedPlacement lookupsOf
    split <;> rfl
  | _ => exact .same ⟨rfl, rfl, rfl⟩

/-- What a directive given to a reachable builder does to the pool, to render space and to the
camera. -/
theorem placing_next (reach : Reachable setup b) (d : LocatedDirective α) :
    Placing setup b d (next setup b d) := by
  have change := change_next reach d
  generalize next setup b d = b' at change ⊢
  cases change with
  | effect placed effect => exact .of_effect placed effect
  | leave rest kind => exact .same (.leave b rest kind)
  | endWorld => exact .same (.endWorld b)
  | _ => exact .same ⟨rfl, rfl, rfl⟩

/-! ## The pool of a run -/

/-- A directive changes the pool by lookups only: those of the directive, or none. -/
theorem pool_next (reach : Reachable setup b) (d : LocatedDirective α) :
    ∃ looked, (looked = [] ∨ looked = lookupsOf setup b d.directive) ∧
      (next setup b d).pool = b.pool.afterLookups setup.hashOf looked := by
  have placing := placing_next reach d
  generalize next setup b d = b' at placing ⊢
  cases placing with
  | same same => exact ⟨[], Or.inl rfl, same.pool⟩
  | lookups same => exact ⟨_, Or.inr rfl, same.pool⟩
  | camera which _ =>
    refine ⟨_, Or.inr rfl, ?_⟩
    rw [which]
    rfl

/-- What a directive puts into the pool comes behind what is there. -/
theorem entries_pool_next (reach : Reachable setup b) (d : LocatedDirective α) :
    b.pool.entries <+: (next setup b d).pool.entries := by
  obtain ⟨looked, -, pool⟩ := pool_next reach d
  rw [pool]
  exact TransformPool.entries_afterLookups b.pool looked

end Builder

end SceneScript
