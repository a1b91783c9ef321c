import SceneScript.Builder.Interpret
import SceneScript.Proofs.Action

/-!
# What entity directives do

Behind their conditions, the directives that add entities always finish, and what they leave can be
written down. A transform gets its handle from the pool, with the pool that this leaves
(`internedPair`, `stillShape`, `movingShape`); a shape takes the area light in force with it, unless
it belongs to an object (`lightUp`, `nextAreaLight`).

There is one lemma for every such directive. It says how the run ends, with its notices.
-/

set_option autoImplicit false

namespace SceneScript.Builder

variable {α : Type} {b : Builder α}

/-! ## Area lights -/

/-- The area light of the next shape: the one in force, unless the shape will belong to an
object. -/
def lightOfNextShape (b : Builder α) : Option (AreaLight α) :=
  if b.openObject.isSome then none else b.graphics.areaLight

/-- The place of the next shape's area light. -/
def nextAreaLight (b : Builder α) : Option Nat :=
  b.lightOfNextShape.map fun _ => b.scene.areaLights.length

/-- The builder with the area light of its next shape in the scene. -/
def lightUp (b : Builder α) : Builder α :=
  { b with
    scene := { b.scene with
      areaLights := b.scene.areaLights ++ (b.lightOfNextShape.map areaLightEntity).toList } }

/-- The warning about a shape of an object for which an area light is in force. -/
def lightWarnings (loc : Location α) (b : Builder α) : List (BuildNotice α) :=
  if b.openObject.isSome ∧ b.graphics.areaLight.isSome
  then [.message ⟨.warning, "Area lights not supported with object instancing", some loc⟩] else []

theorem lightUp_of_none (unlit : b.lightOfNextShape = none) : b.lightUp = b := by
  simp [lightUp, unlit]

/-- The shapes of an object take no light with them. -/
theorem lightOfNextShape_of_some {o : ObjectDefinition α} (opened : b.openObject = some o) :
    b.lightOfNextShape = none := by
  simp [lightOfNextShape, opened]

theorem run_commitAreaLight (loc : Location α) :
    (commitAreaLight loc).run b = ⟨.ok b.nextAreaLight, b.lightUp, lightWarnings loc b⟩ := by
  unfold commitAreaLight
  rw [Action.run_get_bind]
  split
  · rename_i dark
    have unlit : b.lightOfNextShape = none := by simp [lightOfNextShape, dark]
    simp [nextAreaLight, lightUp_of_none, unlit, lightWarnings, dark]
  · rename_i light lit
    split
    · rename_i opened
      have unlit : b.lightOfNextShape = none := by simp [lightOfNextShape, opened]
      simp only [nextAreaLight, lightUp_of_none unlit, unlit, lightWarnings, opened, lit,
        Option.isSome_some, and_self, if_true]
      rfl
    · rename_i closed
      have lights : b.lightOfNextShape = some light := by simp [lightOfNextShape, closed, lit]
      simp only [nextAreaLight, lightUp, lights, lightWarnings, closed, false_and,
        Bool.false_eq_true, if_false]
      rfl

/-! ## Transforms -/

/-- The builder with another pool. -/
def withPool (b : Builder α) (pool : TransformPool α) : Builder α :=
  { b with pool }

@[simp] theorem openObject_withPool (pool : TransformPool α) :
    (b.withPool pool).openObject = b.openObject := rfl

@[simp] theorem openObject_lightUp : b.lightUp.openObject = b.openObject := rfl

variable [Scalar α]

/-- The handles of a transform pair, with the times of the scene, and the pool they leave. -/
def internedPair (setup : BuildSetup α) (b : Builder α) (pair : TransformPair α) :
    TimedTransform α × TransformPool α :=
  let opening := b.pool.intern setup.hashOf pair.opening
  let closing := opening.2.intern setup.hashOf pair.closing
  (⟨opening.1, b.openingTime, closing.1, b.closingTime⟩, closing.2)

/-- Where an instance stands, and the pool that this leaves. -/
def internedPlacement (setup : BuildSetup α) (b : Builder α) (moving : Bool)
    (pair : TransformPair α) : Placement α × TransformPool α :=
  if moving then
    (.moving (internedPair setup b pair).1, (internedPair setup b pair).2)
  else
    (.still (b.pool.intern setup.hashOf pair.opening).1,
      (b.pool.intern setup.hashOf pair.opening).2)

theorem run_internPlacement (setup : BuildSetup α) (moving : Bool) (pair : TransformPair α) :
    (internPlacement setup moving pair).run b =
      ⟨.ok (internedPlacement setup b moving pair).1,
        { b with pool := (internedPlacement setup b moving pair).2 }, []⟩ := by
  cases moving <;> rfl

/-! ## Shapes -/

section AddShape

omit [Scalar α]

theorem addStillShape_of_none (closed : b.openObject = none) (s : StillShape α) :
    b.addStillShape s =
      { b with scene := { b.scene with stillShapes := b.scene.stillShapes ++ [s] } } := by
  simp [addStillShape, closed]

theorem addStillShape_of_some {o : ObjectDefinition α} (opened : b.openObject = some o)
    (s : StillShape α) :
    b.addStillShape s =
      { b with openObject := some { o with stillShapes := o.stillShapes ++ [s] } } := by
  simp [addStillShape, opened]

theorem addMovingShape_of_none (closed : b.openObject = none) (s : MovingShape α) :
    b.addMovingShape s =
      { b with scene := { b.scene with movingShapes := b.scene.movingShapes ++ [s] } } := by
  simp [addMovingShape, closed]

theorem addMovingShape_of_some {o : ObjectDefinition α} (opened : b.openObject = some o)
    (s : MovingShape α) :
    b.addMovingShape s =
      { b with openObject := some { o with movingShapes := o.movingShapes ++ [s] } } := by
  simp [addMovingShape, opened]

end AddShape

section Shapes

variable (setup : BuildSetup α) (loc : Location α) (name : String) (params : List (Param α))

/-- The shape that stands still under the current transform, and the pool that it leaves. -/
def stillShape (b : Builder α) : StillShape α × TransformPool α :=
  let forward := b.pool.intern setup.hashOf b.renderFromObject.opening
  let backward := forward.2.intern setup.hashOf forward.1.transform.inverse
  (⟨b.shapeBase name params loc b.nextAreaLight, forward.1, backward.1⟩, backward.2)

/-- The shape that moves with the current transform, and the pool that it leaves. -/
def movingShape (b : Builder α) : MovingShape α × TransformPool α :=
  let placed := internedPair setup b b.renderFromObject
  let identity := placed.2.intern setup.hashOf .identity
  (⟨b.shapeBase name params loc b.nextAreaLight, placed.1, identity.1⟩, identity.2)

theorem run_performShape_of_still (still : b.graphics.ctm.moves = false) :
    (performShape setup loc name params).run b =
      ⟨.ok (),
        (b.lightUp.withPool (stillShape setup loc name params b).2).addStillShape
          (stillShape setup loc name params b).1, lightWarnings loc b⟩ := by
  have there : b.lightUp.graphics.ctm.moves = false := still
  unfold performShape
  rw [Action.run_bind_of_eq_ok (run_commitAreaLight loc), Action.run_get_bind]
  simp only [there, Bool.false_eq_true, if_false]
  exact congrArg _ (List.append_nil _)

theorem run_performShape_of_moving (moves : b.graphics.ctm.moves = true) :
    (performShape setup loc name params).run b =
      ⟨.ok (),
        (b.lightUp.withPool (movingShape setup loc name params b).2).addMovingShape
          (movingShape setup loc name params b).1, lightWarnings loc b⟩ := by
  have there : b.lightUp.graphics.ctm.moves = true := moves
  unfold performShape
  rw [Action.run_bind_of_eq_ok (run_commitAreaLight loc), Action.run_get_bind]
  simp only [there, if_true]
  exact congrArg _ (List.append_nil _)

end Shapes

/-! ## Cameras, textures, media, lights and instances -/

section Entities

variable (setup : BuildSetup α) (loc : Location α) (name : String) (params : List (Param α))

/-- The move to render space that a camera under the current transforms fixes. -/
def renderFromWorldHere (b : Builder α) : TransformPair α :=
  b.graphics.ctm.inverse.map fun _ => originAtCamera

/-- The camera of a Camera directive, and the pool that it leaves. -/
def placedCamera (b : Builder α) : Camera α × TransformPool α :=
  let toRender := internedPair setup b
    (renderFromCamera b.graphics.ctm b.renderFromWorldHere)
  let toWorld := internedPair setup (b.withPool toRender.2) b.graphics.ctm.inverse
  (⟨b.entityWith name params loc [], toRender.1, toWorld.1, b.graphics.outsideMedium⟩, toWorld.2)

theorem run_performCamera :
    (performCamera setup loc name params).run b =
      ⟨.ok (),
        { b with
          renderFromWorld := b.renderFromWorldHere
          coordinateSystems := b.coordinateSystems.insert "camera" b.graphics.ctm.inverse
          pool := (placedCamera setup loc name params b).2
          scene := { b.scene with camera := some (placedCamera setup loc name params b).1 } },
        []⟩ :=
  rfl

/-- The texture of a Texture directive, and the pool that it leaves. -/
def placedTexture (implementation : String) (b : Builder α) : Texture α × TransformPool α :=
  let placed := internedPair setup b b.renderFromObject
  (⟨b.worldEntity .texture implementation params loc, name, placed.1⟩, placed.2)

theorem run_performTexture {word : String} {kind : TextureKind} (implementation : String)
    (known : TextureKind.ofName? word = some kind)
    (fresh : (b.scene.textures kind).any (·.sceneName == name) = false) :
    (performTexture setup loc name word implementation params).run b =
      ⟨.ok (),
        { b with
          pool := (placedTexture setup loc name params implementation b).2
          scene := b.scene.addTexture
            (placedTexture setup loc name params implementation b).1 kind }, []⟩ := by
  unfold performTexture
  simp only [known, Action.run_get_bind, fresh, Bool.false_eq_true, if_false]
  rfl

/-- The medium of a MakeNamedMedium directive, and the pool that it leaves. -/
def placedMedium (b : Builder α) : Medium α × TransformPool α :=
  let placed := internedPair setup b b.renderFromObject
  (⟨b.worldEntity .medium name params loc, placed.1⟩, placed.2)

/-- The warning about a medium under a current transform that moves. -/
def mediumWarnings (b : Builder α) : List (BuildNotice α) :=
  if b.graphics.ctm.moves
  then [.message ⟨.warning,
    "Animated transformations set; ignoring for \"MakeNamedMedium\" and using the start transform only",
    some loc⟩]
  else []

theorem run_performMakeNamedMedium (fresh : b.scene.media.contains name = false) :
    (performMakeNamedMedium setup loc name params).run b =
      ⟨.ok (),
        { b with
          pool := (placedMedium setup loc name params b).2
          scene := { b.scene with
            media := b.scene.media.insert name (placedMedium setup loc name params b).1 } },
        mediumWarnings loc b⟩ := by
  unfold performMakeNamedMedium mediumWarnings
  simp only [Action.run_get_bind, fresh, Bool.false_eq_true, if_false]
  split <;> rfl

/-- The light of a LightSource directive, and the pool that it leaves. -/
def placedLight (b : Builder α) : Light α × TransformPool α :=
  let placed := internedPair setup b b.renderFromObject
  (⟨b.worldEntity .light name params loc, placed.1, b.graphics.outsideMedium⟩, placed.2)

theorem run_performLightSource :
    (performLightSource setup loc name params).run b =
      ⟨.ok (),
        { b with
          pool := (placedLight setup loc name params b).2
          scene := { b.scene with
            lights := b.scene.lights ++ [(placedLight setup loc name params b).1] } }, []⟩ :=
  rfl

/-- The placement of an ObjectInstance directive, and the pool that it leaves. -/
def placementHere (b : Builder α) : Placement α × TransformPool α :=
  internedPlacement setup b b.graphics.ctm.moves b.renderFromInstance

theorem run_performObjectInstance (closed : b.openObject = none)
    (defined : b.scene.objects.contains name = true) :
    (performObjectInstance setup loc name).run b =
      ⟨.ok (),
        { b with
          pool := (placementHere setup b).2
          instancesPlaced := b.instancesPlaced + 1
          scene := { b.scene with
            instances := b.scene.instances ++ [⟨name, loc, (placementHere setup b).1⟩] } },
        []⟩ := by
  have placed := run_internPlacement (b := { b with instancesPlaced := b.instancesPlaced + 1 })
    setup b.graphics.ctm.moves b.renderFromInstance
  unfold performObjectInstance
  rw [Action.run_get_bind]
  split
  · rename_i outer opened
    exact absurd (opened.symm.trans closed) (by simp)
  · simp only [defined, Bool.not_true, Bool.false_eq_true, if_false]
    rw [Action.run_bind_of_eq_ok (Action.run_modify _ _), Action.run_bind_of_eq_ok placed]
    rfl

end Entities

end SceneScript.Builder
