import SceneScript.Proofs.Builder.SlotSharing
import SceneScript.Scalar.Double

/-!
# The two slots do not interfere

A transform directive works on the slots that are active. The others keep what they have, and so
does everything that is later taken from them: what scopes save, what names stand for, and the move
to render space that a camera fixes.

Every directive leads from builders that are the same at a slot to such builders, with the same
result (`relates_interpretAt`). A transform directive that finds the slot inactive leaves a builder
that is the same there, so it can be left out (`sameAt_next_of_inactive`). `slots_do_not_interfere`
puts both together over whole runs.
-/

set_option autoImplicit false

namespace SceneScript

variable {α : Type}

/-- Whether a directive works on the current transforms of the active slots. -/
def Directive.worksOnActive : Directive α → Bool
  | identity | translate _ | scale _ | rotate _ _ | lookAt _ _ _ => true
  | concatTransform _ | transform _ => true
  | _ => false

theorem Directive.scopeRole_of_worksOnActive {d : Directive α} (works : d.worksOnActive = true) :
    d.scopeRole = .plain := by
  cases d <;> first | rfl | exact absurd works Bool.false_ne_true

namespace Builder

section Parts

variable {slot : TimeSlot} (loc : Location α)

/-! ## Directives that open and close scopes -/

theorem relates_performObjectBegin (name : String) :
    Action.Relates (SameAt slot) (performObjectBegin loc name) (performObjectBegin loc name) := by
  refine .get_bind fun b c same => ?_
  rw [same.names.objects name]
  rcases same.openObject_cases with ⟨left, right⟩ | ⟨o, o', left, right, outer⟩
  · simp only [left, right]
    split
    · exact .fail _ -- the name is taken in both
    · exact .modify fun _ _ same => { same with
        savedGraphics := by
          rw [List.map_cons, List.map_cons, same.graphics, same.savedGraphics]
        openScopes := by rw [same.openScopes]
        openObject := rfl }
  · simp only [left, right, outer]
    exact .fail _

theorem relates_performObjectEnd :
    Action.Relates (SameAt slot) (performObjectEnd loc) (performObjectEnd loc) := by
  refine .get_bind fun b c same => ?_
  rcases same.openObject_cases with ⟨left, right⟩ | ⟨o, o', left, right, name⟩
  · simp only [left, right]
    exact .fail _
  · simp only [left, right]
    exact (relates_closeScope loc _).bind fun _ => (relates_restoreGraphics loc).bind fun _ =>
      relates_closeObject name

theorem relates_performTransformEnd :
    Action.Relates (SameAt slot) (performTransformEnd loc) (performTransformEnd loc) :=
  (relates_closeScope loc _).bind fun _ => .get_bind fun _ _ same =>
    relates_putSaved same (.fail _)

theorem relates_performAttributeBegin :
    Action.Relates (SameAt slot) (performAttributeBegin loc) (performAttributeBegin loc) :=
  .modify fun _ _ same => { same with
    savedGraphics := by rw [List.map_cons, List.map_cons, same.graphics, same.savedGraphics]
    openScopes := by rw [same.openScopes] }

theorem relates_performTransformBegin :
    Action.Relates (SameAt slot) (performTransformBegin loc) (performTransformBegin loc) :=
  .modify fun b c same => { same with
    savedTransforms := by
      have here : SavedTransforms.atSlot slot ⟨b.graphics.ctm, b.graphics.active⟩ =
          SavedTransforms.atSlot slot ⟨c.graphics.ctm, c.graphics.active⟩ := same.graphics
      rw [List.map_cons, List.map_cons, here, same.savedTransforms]
    openScopes := by rw [same.openScopes] }

/-! ## Directives about transforms and color -/

theorem relates_performCoordSysTransform (name : String) :
    Action.Relates (SameAt slot) (performCoordSysTransform loc name)
      (performCoordSysTransform loc name) := by
  refine .get_bind fun b c same => ?_
  have known := same.coordinateSystems name
  cases h : b.coordinateSystems.find? name <;> cases k : c.coordinateSystems.find? name <;>
    simp only [h, k, Option.map_none, Option.map_some, Option.some.injEq, reduceCtorEq] at known ⊢
  · exact .notify _ _
  · refine .modify fun _ _ same => same.withGraphics ?_
    simp only [GraphicsState.atSlot, known, same.active]

theorem relates_performCoordinateSystem (name : String) :
    Action.Relates (SameAt slot) (performCoordinateSystem (α := α) name)
      (performCoordinateSystem name) :=
  .modify fun _ _ same => { same with
    coordinateSystems := same.withCoordinateSystem name same.ctm }

theorem relates_performColorSpace (name : String) :
    Action.Relates (SameAt slot) (performColorSpace loc name) (performColorSpace loc name) := by
  unfold performColorSpace
  cases ColorSpace.ofName? name with
  | none => exact .notify _ _
  | some colorSpace => exact relates_modifyGraphics_of_keeps fun _ => rfl

theorem relates_performAttributes (target : String) (params : List (Param α)) :
    Action.Relates (SameAt slot) (performAttributes loc target params)
      (performAttributes loc target params) := by
  unfold performAttributes
  cases EntityKind.ofName? target with
  | none => exact .fail _
  | some kind => exact relates_modifyGraphics_of_keeps fun _ => rfl

theorem relates_performMediumInterface (inside outside : String) :
    Action.Relates (SameAt slot) (performMediumInterface (α := α) inside outside)
      (performMediumInterface inside outside) := by
  refine .bind (relates_modifyGraphics_of_keeps fun _ => rfl) fun _ => ?_
  exact .modify fun _ _ same => { same with names := { same.names with } }

end Parts

/-! ## Directives that add entities -/

section Entities

variable [Scalar α] {slot : TimeSlot} (setup : BuildSetup α) (loc : Location α) (name : String)
  (params : List (Param α))

theorem relates_performTexture (word implementation : String) :
    Action.Relates (SameAt slot) (performTexture setup loc name word implementation params)
      (performTexture setup loc name word implementation params) := by
  cases known : TextureKind.ofName? word with
  | none =>
    unfold performTexture
    simp only [known]
    exact .fail _
  | some kind =>
    intro b c same
    have taken := same.names.textures kind name
    cases fresh : (b.scene.textures kind).any (·.sceneName == name) with
    | true =>
      rw [fresh] at taken
      unfold performTexture
      simp only [known, Action.run_get_bind, fresh, ← taken, if_true]
      exact ⟨rfl, same⟩
    | false =>
      rw [run_performTexture setup loc name params implementation known fresh,
        run_performTexture setup loc name params implementation known (taken.symm.trans fresh)]
      -- the new textures differ, with their handles, but not in their name
      refine ⟨rfl, { same with settings := ?_, names := ⟨?_, ?_, ?_, ?_⟩ }⟩
      · cases kind <;> exact same.settings
      · intro other name'
        simp only [Scene.textures_addTexture]
        split
        · rw [List.any_append, List.any_append, same.names.textures kind name']
          rfl
        · exact same.names.textures other name'
      · cases kind <;> exact same.names.namedMaterials
      · cases kind <;> exact same.names.media
      · cases kind <;> exact same.names.objects

omit [Scalar α] in
theorem relates_performMakeNamedMaterial :
    Action.Relates (SameAt slot) (performMakeNamedMaterial loc name params)
      (performMakeNamedMaterial loc name params) := by
  refine .get_bind fun b c same => ?_
  rw [same.names.namedMaterials name]
  split
  · exact .fail _
  · exact .modify fun _ _ same => { same with
      names := { same.names with
        namedMaterials := Registry.contains_insert_congr _ _ _ same.names.namedMaterials } }

theorem relates_performMakeNamedMedium :
    Action.Relates (SameAt slot) (performMakeNamedMedium setup loc name params)
      (performMakeNamedMedium setup loc name params) := by
  intro b c same
  have taken := same.names.media name
  cases fresh : b.scene.media.contains name with
  | true =>
    rw [fresh] at taken
    unfold performMakeNamedMedium
    simp only [Action.run_get_bind, fresh, ← taken, if_true]
    exact ⟨rfl, same⟩
  | false =>
    rw [run_performMakeNamedMedium setup loc name params fresh,
      run_performMakeNamedMedium setup loc name params (taken.symm.trans fresh)]
    exact ⟨rfl, { same with
      names := { same.names with
        media := Registry.contains_insert_congr _ _ _ same.names.media } }⟩

/-- Whether a shape moves may depend on the other slot; that there is a shape does not. -/
theorem relates_performShape :
    Action.Relates (SameAt slot) (performShape setup loc name params)
      (performShape setup loc name params) := by
  refine relates_of_keeps (.ok ()) fun b => ?_
  have lit : ∀ pool, SameAt slot (b.lightUp.withPool pool) b := fun _ =>
    { SameAt.refl b with names := { Scene.SameNames.refl b.scene with } }
  cases moves : b.graphics.ctm.moves with
  | false =>
    rw [run_performShape_of_still setup loc name params moves]
    exact ⟨rfl, (SameAt.addStillShape _ _).trans (lit _)⟩
  | true =>
    rw [run_performShape_of_moving setup loc name params moves]
    exact ⟨rfl, (SameAt.addMovingShape _ _).trans (lit _)⟩

theorem relates_performLightSource :
    Action.Relates (SameAt slot) (performLightSource setup loc name params)
      (performLightSource setup loc name params) :=
  relates_of_keeps (.ok ()) fun b => by
    rw [run_performLightSource]
    exact ⟨rfl, { SameAt.refl b with names := { Scene.SameNames.refl b.scene with } }⟩

theorem relates_performObjectInstance :
    Action.Relates (SameAt slot) (performObjectInstance setup loc name)
      (performObjectInstance setup loc name) := by
  intro b c same
  have known := same.names.objects name
  rcases same.openObject_cases with ⟨left, right⟩ | ⟨o, o', left, right, outer⟩
  · cases defined : b.scene.objects.contains name with
    | false =>
      rw [defined] at known
      unfold performObjectInstance
      simp only [Action.run_get_bind, left, right, defined, ← known, Bool.not_false, if_true]
      exact ⟨rfl, same⟩
    | true =>
      rw [run_performObjectInstance setup loc name left defined,
        run_performObjectInstance setup loc name right (known.symm.trans defined)]
      exact ⟨rfl, { same with names := { same.names with } }⟩
  · unfold performObjectInstance
    simp only [Action.run_get_bind, left, right, outer]
    exact ⟨rfl, same⟩

omit [Scalar α] in
theorem relates_performMaterial :
    Action.Relates (SameAt slot) (performMaterial loc name params)
      (performMaterial loc name params) :=
  .modify fun _ _ same => { same with graphics := same.graphics, names := { same.names with } }

/-- Render space at a slot depends on the camera at that slot only. -/
theorem relates_performCamera :
    Action.Relates (SameAt slot) (performCamera setup loc name params)
      (performCamera setup loc name params) := by
  intro b c same
  have camera : b.graphics.ctm.inverse.get slot = c.graphics.ctm.inverse.get slot := by
    simp only [TransformPair.get_inverse, same.ctm]
  have toRender : b.renderFromWorldHere.get slot = c.renderFromWorldHere.get slot := by
    simp only [renderFromWorldHere, TransformPair.get_map, camera]
  rw [run_performCamera, run_performCamera]
  exact ⟨rfl, { same with
    renderFromWorld := toRender
    coordinateSystems := same.withCoordinateSystem "camera" camera
    names := { same.names with } }⟩

omit [Scalar α] in
theorem relates_putEntity {put : Entity α → Scene α → Scene α}
    (keeps : ∀ e s, (put e s).settings = s.settings ∧ (put e s).SameNames s) :
    Action.Relates (SameAt slot) (putEntity loc name params put)
      (putEntity loc name params put) :=
  relates_of_keeps (.ok ()) fun b =>
    ⟨rfl, { SameAt.refl b with settings := (keeps _ _).1, names := (keeps _ _).2 }⟩

end Entities

/-! ## The end of the world -/

section WorldEnd

variable [Scalar α] {slot : TimeSlot} (loc : Location α)

theorem relates_closeForgotten (scope : Scope α) :
    Action.Relates (SameAt slot) (closeForgotten loc scope) (closeForgotten loc scope) := by
  refine (Action.Relates.notify _ _).bind fun _ => ?_
  split
  · exact .get_bind fun _ _ same => relates_putSaved same (.pure _)
  · exact relates_restoreGraphics loc
  · exact relates_restoreGraphics loc

theorem relates_closeEverything :
    Action.Relates (SameAt slot) (closeEverything loc) (closeEverything loc) := by
  refine .get_bind fun b c same => ?_
  rw [same.openScopes]
  refine .bind (.modify fun _ _ same => ?_) fun _ => ?_
  · exact { same with openScopes := by rw [same.openScopes] }
  refine (Action.Relates.forEach (relates_closeForgotten loc) _).bind fun _ => ?_
  refine .get_bind fun b c same => ?_
  rcases same.openObject_cases with ⟨left, right⟩ | ⟨o, o', left, right, name⟩
  · simp only [left, right]
    exact .pure _
  · simp only [left, right]
    exact relates_closeObject name

end WorldEnd

/-! ## One directive -/

section Directives

variable [Scalar α] {slot : TimeSlot} (setup : BuildSetup α) (loc : Location α)

theorem relates_transformOfEntries (directive : String) (entries : List α) :
    Action.Relates (SameAt slot) (transformOfEntries loc directive entries)
      (transformOfEntries loc directive entries) := by
  unfold transformOfEntries
  split
  · exact .fail _
  · exact .pure _

theorem relates_performOption (name value : String) :
    Action.Relates (SameAt slot) (performOption loc name value) (performOption loc name value) := by
  refine .get_bind fun b c same => ?_
  rw [same.settings]
  cases c.scene.settings.apply name value with
  | error reason => exact .fail _
  | ok settings =>
    exact .modify fun _ _ same => { same with settings := rfl, names := { same.names with } }

theorem relates_performLookAt (eye look up : Vec3 α) :
    Action.Relates (SameAt slot) (performLookAt loc eye look up)
      (performLookAt loc eye look up) := by
  unfold performLookAt
  cases Transform.lookAt? eye look up with
  | none => exact .notify _ _
  | some t => exact relates_transformActive _

theorem relates_perform (d : Directive α) :
    Action.Relates (SameAt slot) (perform setup loc d) (perform setup loc d) := by
  have kept : ∀ s : Scene α, s.SameNames s := .refl
  cases d <;> unfold perform
  case option name value => exact relates_performOption loc name value
  case identity => exact relates_transformActive _
  case translate v => exact relates_transformActive _
  case scale v => exact relates_transformActive _
  case rotate degrees axis => exact relates_transformActive _
  case lookAt eye look up => exact relates_performLookAt loc eye look up
  case concatTransform entries =>
    exact (relates_transformOfEntries loc _ entries).bind fun _ => relates_transformActive _
  case transform entries =>
    exact (relates_transformOfEntries loc _ entries).bind fun _ => relates_transformActive _
  case coordinateSystem name => exact relates_performCoordinateSystem name
  case coordSysTransform name => exact relates_performCoordSysTransform loc name
  case activeTransform slots =>
    refine relates_modifyGraphics fun g g' same => ?_
    have ctm : g.ctm.get slot = g'.ctm.get slot := congrArg SlotTransform.transform same
    simp only [GraphicsState.atSlot, ctm]
  case transformTimes opening closing => exact .modify fun _ _ same => { same with }
  case colorSpace name => exact relates_performColorSpace loc name
  case camera name params => exact relates_performCamera setup loc name params
  case film name params => exact relates_putEntity loc name params fun _ s => ⟨rfl, { kept s with }⟩
  case sampler name params =>
    exact relates_putEntity loc name params fun _ s => ⟨rfl, { kept s with }⟩
  case pixelFilter name params =>
    exact relates_putEntity loc name params fun _ s => ⟨rfl, { kept s with }⟩
  case integrator name params =>
    exact relates_putEntity loc name params fun _ s => ⟨rfl, { kept s with }⟩
  case accelerator name params =>
    exact relates_putEntity loc name params fun _ s => ⟨rfl, { kept s with }⟩
  case worldBegin =>
    exact .modify fun _ _ same => { same with
      phase := rfl
      graphics := rfl
      coordinateSystems := same.withCoordinateSystem "world" rfl }
  case worldEnd =>
    exact (relates_closeEverything loc).bind fun _ => (relates_handOver setup).bind fun _ =>
      .modify fun _ _ same => { same with phase := rfl }
  case attributeBegin => exact relates_performAttributeBegin loc
  case attributeEnd =>
    exact (relates_closeScope loc _).bind fun _ => relates_restoreGraphics loc
  case transformBegin => exact relates_performTransformBegin loc
  case transformEnd => exact relates_performTransformEnd loc
  case attributes target params => exact relates_performAttributes loc target params
  case texture name kind implementation params =>
    exact relates_performTexture setup loc name params kind implementation
  case material name params => exact relates_performMaterial loc name params
  case makeNamedMaterial name params => exact relates_performMakeNamedMaterial loc name params
  case namedMaterial name => exact relates_modifyGraphics_of_keeps fun _ => rfl
  case makeNamedMedium name params => exact relates_performMakeNamedMedium setup loc name params
  case mediumInterface inside outside => exact relates_performMediumInterface inside outside
  case lightSource name params => exact relates_performLightSource setup loc name params
  case areaLightSource name params => exact relates_modifyGraphics_of_keeps fun _ => rfl
  case shape name params => exact relates_performShape setup loc name params
  case reverseOrientation => exact relates_modifyGraphics_of_keeps fun _ => rfl
  case objectBegin name => exact relates_performObjectBegin loc name
  case objectEnd => exact relates_performObjectEnd loc
  case objectInstance name => exact relates_performObjectInstance setup loc name

/-- A directive leads from builders that are the same at a slot to such builders, with the same
result. -/
theorem relates_interpretAt (d : LocatedDirective α) :
    Action.Relates (SameAt slot) (interpretAt setup d) (interpretAt setup d) := by
  refine .get_bind fun b c same => ?_
  rw [same.phase]
  cases misplaced? c.phase d.directive with
  | some text => exact .notify _ _
  | none => exact relates_perform setup d.loc d.directive

/-- A transform directive keeps the slots that are not active. -/
theorem sameAt_next_of_inactive {b : Builder α} {d : LocatedDirective α}
    (works : d.directive.worksOnActive = true)
    (inactive : b.graphics.active.contains slot = false) :
    SameAt slot (next setup b d) b := by
  have plain := Directive.scopeRole_of_worksOnActive works
  cases placed : misplaced? b.phase d.directive with
  | some text =>
    rw [next_of_misplaced placed]
    exact .refl b
  | none =>
    rw [next_of_placed placed]
    have effect := effect_perform setup d.loc plain (b := b)
    generalize d.directive = d' at works effect ⊢
    generalize (perform setup d.loc d').run b = o at effect
    cases effect with
    | ignored _ => exact .refl b
    | refused _ _ => exact .refl b
    | transformed _ =>
      -- the change passes over the slot
      refine (SameAt.refl b).withGraphics ?_
      simp [GraphicsState.atSlot, GraphicsState.transformActive, inactive]
    | image part => cases d' <;> simp [Directive.worksOnActive, Directive.imagePart?] at works part
    | _ => exact absurd works Bool.false_ne_true

end Directives

/-! ## Runs -/

section Runs

variable [Scalar α] (setup : BuildSetup α) (slot : TimeSlot)

/-- A run from `b` without the transform directives that found the slot inactive. -/
def withoutInactive (b : Builder α) : List (LocatedDirective α) → List (LocatedDirective α)
  | [] => []
  | d :: rest =>
    if d.directive.worksOnActive && !b.graphics.active.contains slot then
      withoutInactive (next setup b d) rest
    else d :: withoutInactive (next setup b d) rest

variable {setup slot} {b c : Builder α}

/-- Without those directives, a run that finishes still does, and leaves a builder that is the same
at the slot. -/
theorem sameAt_carryOut_withoutInactive (same : SameAt slot b c) {ds : List (LocatedDirective α)}
    (done : ((carryOut setup ds).run b).result = .ok ()) :
    ((carryOut setup (withoutInactive setup slot b ds)).run c).result = .ok () ∧
      SameAt slot ((carryOut setup ds).run b).state
        ((carryOut setup (withoutInactive setup slot b ds)).run c).state := by
  -- the two builders stay the same at the slot: `b` of the whole run, `c` of the shortened one
  induction ds generalizing b c with
  | nil => exact ⟨rfl, same⟩
  | cons d rest ih =>
    unfold carryOut at done ih ⊢
    obtain ⟨first, others⟩ := (Action.finished_forEach_cons _).1 done
    rw [Action.run_forEach_cons_of_finished _ rest first]
    by_cases left : (d.directive.worksOnActive && !b.graphics.active.contains slot) = true
    · rw [withoutInactive, if_pos left]
      obtain ⟨works, inactive⟩ : d.directive.worksOnActive = true ∧
        b.graphics.active.contains slot = false := by simpa using left
      exact ih ((sameAt_next_of_inactive setup works inactive).trans same) others
    · rw [withoutInactive, if_neg left]
      obtain ⟨result, state⟩ := relates_interpretAt setup d b c same
      have finishes : ((interpretAt setup d).run c).result = .ok () := result.symm.trans first
      obtain ⟨finished, left'⟩ := ih state others
      rw [Action.run_forEach_cons_of_finished _ _ finishes]
      exact ⟨finished, left'⟩

/-- A run that does not fail, and the same run without the transform directives that found a slot
inactive: the second one does not fail either, and the slot has the same transforms after both,
current, saved, named, and to render space. The active slots and the block are the same, too. -/
theorem slots_do_not_interfere (setup : BuildSetup α) (slot : TimeSlot) (b : Builder α)
    (ds : List (LocatedDirective α))
    (done : ((carryOut setup ds).run b).result = .ok ()) :
    let whole := ((carryOut setup ds).run b).state
    let shortened := (carryOut setup (withoutInactive setup slot b ds)).run b
    shortened.result = .ok () ∧
      shortened.state.graphics.ctm.get slot = whole.graphics.ctm.get slot ∧
      shortened.state.savedGraphics.map (·.ctm.get slot) =
        whole.savedGraphics.map (·.ctm.get slot) ∧
      shortened.state.savedTransforms.map (·.ctm.get slot) =
        whole.savedTransforms.map (·.ctm.get slot) ∧
      (∀ name, (shortened.state.coordinateSystems.find? name).map (·.get slot) =
        (whole.coordinateSystems.find? name).map (·.get slot)) ∧
      shortened.state.renderFromWorld.get slot = whole.renderFromWorld.get slot ∧
      shortened.state.graphics.active = whole.graphics.active ∧
      shortened.state.phase = whole.phase := by
  intro whole shortened
  obtain ⟨finished, same⟩ := sameAt_carryOut_withoutInactive (SameAt.refl b : SameAt slot b b) done
  have saved := congrArg (List.map SlotTransform.transform) same.savedGraphics
  have pushed := congrArg (List.map SlotTransform.transform) same.savedTransforms
  rw [List.map_map, List.map_map] at saved pushed
  exact ⟨finished, same.ctm.symm, saved.symm, pushed.symm,
    fun name => (same.coordinateSystems name).symm, same.renderFromWorld.symm, same.active.symm,
    same.phase.symm⟩

/-- Control: the opening slot does not notice that the closing slot moved before the camera was
set up, under a name, and in an open scope. Two of the twelve directives are left out. -/
theorem slots_do_not_interfere_moving_camera :
    let setup : BuildSetup Float := ⟨standardHash, .absent⟩
    let start : Builder Float := initial .defaults
    let ds : List (LocatedDirective Float) :=
      [⟨.activeTransform .endTime, .unknown⟩, ⟨.translate ⟨1, 0, 0⟩, .unknown⟩,
        ⟨.coordinateSystem "rig", .unknown⟩, ⟨.activeTransform .all, .unknown⟩,
        ⟨.translate ⟨0, 0, 5⟩, .unknown⟩, ⟨.camera "perspective" [], .unknown⟩,
        ⟨.worldBegin, .unknown⟩, ⟨.coordSysTransform "rig", .unknown⟩,
        ⟨.attributeBegin, .unknown⟩, ⟨.activeTransform .endTime, .unknown⟩,
        ⟨.scale ⟨2, 2, 2⟩, .unknown⟩, ⟨.shape "sphere" [], .unknown⟩]
    ((carryOut setup ds).run start).result = .ok () ∧
      (withoutInactive setup .opening start ds).length = 10 ∧
      ((carryOut setup (withoutInactive setup .opening start ds)).run start).result = .ok () ∧
      ((carryOut setup (withoutInactive setup .opening start ds)).run
        start).state.graphics.ctm.get .opening =
        ((carryOut setup ds).run start).state.graphics.ctm.get .opening ∧
      (after setup start ds).scene.movingShapes.length = 1 ∧
      (after setup start (withoutInactive setup .opening start ds)).scene.movingShapes.length
        = 0 := by
  intro setup start ds
  have done : ((carryOut setup ds).run start).result = .ok () :=
    Action.eq_ok_of_isOk (by decide +kernel)
  obtain ⟨finished, ctm, -⟩ := slots_do_not_interfere setup .opening start ds done
  exact ⟨done, by decide +kernel, finished, ctm, by decide +kernel, by decide +kernel⟩

end Runs

end Builder

end SceneScript
