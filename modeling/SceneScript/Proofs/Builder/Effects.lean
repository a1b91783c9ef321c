import SceneScript.Proofs.Builder.EntityRuns
import SceneScript.Proofs.Builder.ScopeStacks

/-!
# Effects of directives

Most directives open no scope and close none. What such a directive does is written out in `Effect`,
with the builder that it leaves and its notices: it is answered by an error message, or it fails
before it has done anything, or it changes the one part of the builder that it is about.
`effect_perform` says that there is nothing else.

What these directives keep is shown by cases on their effects, without going back to how they are
carried out.
-/

set_option autoImplicit false

namespace SceneScript

/-- The faults of an End whose scope saved nothing. -/
def BuildFault.isEmptyStack {α : Type} : BuildFault α → Bool
  | .noSavedGraphics | .noSavedTransforms => true
  | _ => false

namespace Directive

variable {α : Type}

/-- What a directive puts into the scene for the image as a whole, given the entity of its name and
parameters. -/
def imagePart? : Directive α →
    Option (String × List (Param α) × (Entity α → Scene α → Scene α))
  | film name params => some (name, params, fun e s => { s with film := e })
  | sampler name params => some (name, params, fun e s => { s with sampler := some e })
  | pixelFilter name params => some (name, params, fun e s => { s with filter := e })
  | integrator name params => some (name, params, fun e s => { s with integrator := some e })
  | accelerator name params => some (name, params, fun e s => { s with accelerator := some e })
  | _ => none

variable [Scalar α]

/-- Whether a directive is ignored wherever it stands: a LookAt that fixes no orientation, or a
color space that does not exist. -/
def isVoid : Directive α → Bool
  | lookAt eye look up => (Transform.lookAt? eye look up).isNone
  | colorSpace name => (ColorSpace.ofName? name).isNone
  | _ => false

/-- What a directive does to the current transform of every active slot. -/
def transformation? : Directive α → Option (Transform α → Transform α)
  | identity => some fun _ => .identity
  | translate d => some (·.compose (.translate d))
  | scale s => some (·.compose (.scale s))
  | rotate degrees axis => some (·.compose (.rotate degrees axis))
  | lookAt eye look up => (Transform.lookAt? eye look up).map fun t => (·.compose t)
  | concatTransform entries => (Transform.ofColumns entries).toOption.map fun t => (·.compose t)
  | transform entries => (Transform.ofColumns entries).toOption.map fun t _ => t
  | _ => none

end Directive

namespace Builder

variable {α : Type} [Scalar α]

/-- What a directive at `loc` that leaves the scopes alone comes to, from a builder `b`. -/
inductive Effect (setup : BuildSetup α) (loc : Location α) (b : Builder α) :
    Directive α → Outcome (BuildError α) (Builder α) (BuildNotice α) Unit → Prop
  | ignored {d : Directive α} {text : String} : d.isVoid = true →
      Effect setup loc b d ⟨.ok (), b, [.message ⟨.error, text, some loc⟩]⟩
  | refused {d : Directive α} (fault : BuildFault α) : fault.isEmptyStack = false →
      Effect setup loc b d ⟨.error ⟨loc, fault⟩, b, []⟩
  | option {name value : String} {settings : RenderSettings α} :
      b.scene.settings.apply name value = .ok settings →
      Effect setup loc b (.option name value)
        ⟨.ok (), { b with scene := { b.scene with settings } }, []⟩
  | transformed {d : Directive α} {f : Transform α → Transform α} : d.transformation? = some f →
      Effect setup loc b d ⟨.ok (), { b with graphics := b.graphics.transformActive f }, []⟩
  | coordinateSystem {name : String} :
      Effect setup loc b (.coordinateSystem name)
        ⟨.ok (),
          { b with coordinateSystems := b.coordinateSystems.insert name b.graphics.ctm }, []⟩
  | coordSysTransform {name : String} {ctm : TransformPair α} :
      b.coordinateSystems.find? name = some ctm →
      Effect setup loc b (.coordSysTransform name)
        ⟨.ok (), { b with graphics := { b.graphics with ctm } }, []⟩
  | unknownCoordSys {name : String} : b.coordinateSystems.find? name = none →
      Effect setup loc b (.coordSysTransform name)
        ⟨.ok (), b,
          [.message ⟨.warning, "Couldn't find named coordinate system \"" ++ name ++ "\"",
            some loc⟩]⟩
  | activeTransform {slots : SlotWord} :
      Effect setup loc b (.activeTransform slots)
        ⟨.ok (), { b with graphics := { b.graphics with active := slots.active } }, []⟩
  | transformTimes {opening closing : α} :
      Effect setup loc b (.transformTimes opening closing)
        ⟨.ok (), { b with openingTime := opening, closingTime := closing }, []⟩
  | colorSpace {name : String} {colorSpace : ColorSpace} :
      ColorSpace.ofName? name = some colorSpace →
      Effect setup loc b (.colorSpace name)
        ⟨.ok (), { b with graphics := { b.graphics with colorSpace } }, []⟩
  | camera {name : String} {params : List (Param α)} :
      Effect setup loc b (.camera name params)
        ⟨.ok (),
          { b with
            renderFromWorld := b.renderFromWorldHere
            coordinateSystems := b.coordinateSystems.insert "camera" b.graphics.ctm.inverse
            pool := (placedCamera setup loc name params b).2
            scene := { b.scene with camera := some (placedCamera setup loc name params b).1 } },
          []⟩
  | image {d : Directive α} {name : String} {params : List (Param α)}
      {put : Entity α → Scene α → Scene α} : d.imagePart? = some (name, params, put) →
      Effect setup loc b d
        ⟨.ok (), { b with scene := put (b.entityWith name params loc []) b.scene }, []⟩
  | attributes {target : String} {params : List (Param α)} {kind : EntityKind} :
      EntityKind.ofName? target = some kind →
      Effect setup loc b (.attributes target params)
        ⟨.ok (),
          { b with
            graphics := b.graphics.handDown kind
              (params.map (inheritable b.graphics.colorSpace)) }, []⟩
  | texture {name word implementation : String} {params : List (Param α)} {kind : TextureKind} :
      TextureKind.ofName? word = some kind →
      (b.scene.textures kind).any (·.sceneName == name) = false →
      Effect setup loc b (.texture name word implementation params)
        ⟨.ok (),
          { b with
            pool := (placedTexture setup loc name params implementation b).2
            scene := b.scene.addTexture
              (placedTexture setup loc name params implementation b).1 kind }, []⟩
  | material {name : String} {params : List (Param α)} :
      Effect setup loc b (.material name params)
        ⟨.ok (),
          { b with
            scene := { b.scene with
              materials := b.scene.materials ++ [b.worldEntity .material name params loc] }
            graphics := { b.graphics with material := .index b.scene.materials.length } }, []⟩
  | makeNamedMaterial {name : String} {params : List (Param α)} :
      b.scene.namedMaterials.contains name = false →
      Effect setup loc b (.makeNamedMaterial name params)
        ⟨.ok (),
          { b with
            scene := { b.scene with
              namedMaterials := b.scene.namedMaterials.insert name
                (b.worldEntity .material name params loc) } }, []⟩
  | namedMaterial {name : String} :
      Effect setup loc b (.namedMaterial name)
        ⟨.ok (), { b with graphics := { b.graphics with material := .named name } }, []⟩
  | makeNamedMedium {name : String} {params : List (Param α)} :
      b.scene.media.contains name = false →
      Effect setup loc b (.makeNamedMedium name params)
        ⟨.ok (),
          { b with
            pool := (placedMedium setup loc name params b).2
            scene := { b.scene with
              media := b.scene.media.insert name (placedMedium setup loc name params b).1 } },
          mediumWarnings loc b⟩
  | mediumInterface {inside outside : String} :
      Effect setup loc b (.mediumInterface inside outside)
        ⟨.ok (),
          { b with
            graphics := { b.graphics with insideMedium := inside, outsideMedium := outside }
            scene := { b.scene with usesMedia := true } }, []⟩
  | lightSource {name : String} {params : List (Param α)} :
      Effect setup loc b (.lightSource name params)
        ⟨.ok (),
          { b with
            pool := (placedLight setup loc name params b).2
            scene := { b.scene with
              lights := b.scene.lights ++ [(placedLight setup loc name params b).1] } }, []⟩
  | areaLightSource {name : String} {params : List (Param α)} :
      Effect setup loc b (.areaLightSource name params)
        ⟨.ok (),
          { b with
            graphics := { b.graphics with
              areaLight := some
                ⟨name, params, b.graphics.inherited.light, b.graphics.colorSpace, loc⟩ } }, []⟩
  | stillShape {name : String} {params : List (Param α)} : b.graphics.ctm.moves = false →
      Effect setup loc b (.shape name params)
        ⟨.ok (),
          (b.lightUp.withPool (stillShape setup loc name params b).2).addStillShape
            (stillShape setup loc name params b).1, lightWarnings loc b⟩
  | movingShape {name : String} {params : List (Param α)} : b.graphics.ctm.moves = true →
      Effect setup loc b (.shape name params)
        ⟨.ok (),
          (b.lightUp.withPool (movingShape setup loc name params b).2).addMovingShape
            (movingShape setup loc name params b).1, lightWarnings loc b⟩
  | reverseOrientation :
      Effect setup loc b .reverseOrientation
        ⟨.ok (), { b with graphics := b.graphics.reverse }, []⟩
  | objectInstance {name : String} : b.openObject = none →
      b.scene.objects.contains name = true →
      Effect setup loc b (.objectInstance name)
        ⟨.ok (),
          { b with
            pool := (placementHere setup b).2
            instancesPlaced := b.instancesPlaced + 1
            scene := { b.scene with
              instances := b.scene.instances ++ [⟨name, loc, (placementHere setup b).1⟩] } }, []⟩

section Perform

variable (setup : BuildSetup α) (loc : Location α) {b : Builder α}

/-! ## Directives about transforms and settings -/

theorem effect_performOption (name value : String) :
    Effect setup loc b (.option name value) ((performOption loc name value).run b) := by
  unfold performOption
  rw [Action.run_get_bind]
  split
  · exact .refused _ rfl
  · rename_i settings applied
    exact .option applied

theorem effect_transformActive {d : Directive α} {f : Transform α → Transform α}
    (does : d.transformation? = some f) :
    Effect setup loc b d ((transformActive f).run b) :=
  .transformed does

theorem effect_performLookAt (eye look up : Vec3 α) :
    Effect setup loc b (.lookAt eye look up) ((performLookAt loc eye look up).run b) := by
  unfold performLookAt
  split
  · rename_i t view
    exact effect_transformActive setup loc (by simp [Directive.transformation?, view])
  · rename_i degenerate
    exact .ignored (by simp [Directive.isVoid, degenerate])

/-- The transform of sixteen entries is put to use; another number of entries is refused. -/
theorem effect_transformOfEntries {d : Directive α} (directive : String) (entries : List α)
    {use : Transform α → Build α Unit}
    (used : ∀ t, Transform.ofColumns entries = .ok t → Effect setup loc b d ((use t).run b)) :
    Effect setup loc b d ((transformOfEntries loc directive entries >>= use).run b) := by
  unfold transformOfEntries
  split
  · exact .refused (.entryCount directive _) rfl
  · rename_i t read
    rw [pure_bind]
    exact used t read

theorem effect_performConcatTransform (entries : List α) :
    Effect setup loc b (.concatTransform entries)
      ((performConcatTransform loc entries).run b) := by
  apply effect_transformOfEntries
  intro t read
  exact effect_transformActive setup loc
    (by simp [Directive.transformation?, read, Except.toOption])

theorem effect_performTransform (entries : List α) :
    Effect setup loc b (.transform entries) ((performTransform loc entries).run b) := by
  apply effect_transformOfEntries
  intro t read
  exact effect_transformActive setup loc
    (by simp [Directive.transformation?, read, Except.toOption])

theorem effect_performCoordSysTransform (name : String) :
    Effect setup loc b (.coordSysTransform name) ((performCoordSysTransform loc name).run b) := by
  unfold performCoordSysTransform
  rw [Action.run_get_bind]
  split
  · rename_i ctm found
    exact .coordSysTransform found
  · rename_i unknown
    exact .unknownCoordSys unknown

theorem effect_performColorSpace (name : String) :
    Effect setup loc b (.colorSpace name) ((performColorSpace loc name).run b) := by
  unfold performColorSpace
  split
  · rename_i colorSpace known
    exact .colorSpace known
  · rename_i unknown
    exact .ignored (by simp [Directive.isVoid, unknown])

theorem effect_performAttributes (target : String) (params : List (Param α)) :
    Effect setup loc b (.attributes target params)
      ((performAttributes loc target params).run b) := by
  unfold performAttributes
  split
  · exact .refused _ rfl
  · rename_i kind known
    exact .attributes known

/-! ## Directives that add entities -/

theorem effect_putEntity {d : Directive α} {name : String} {params : List (Param α)}
    {put : Entity α → Scene α → Scene α} (part : d.imagePart? = some (name, params, put)) :
    Effect setup loc b d ((putEntity loc name params put).run b) :=
  .image part

theorem effect_performTexture (name word implementation : String) (params : List (Param α)) :
    Effect setup loc b (.texture name word implementation params)
      ((performTexture setup loc name word implementation params).run b) := by
  cases known : TextureKind.ofName? word with
  | none =>
    unfold performTexture
    simp only [known]
    exact .refused _ rfl
  | some kind =>
    cases fresh : (b.scene.textures kind).any (·.sceneName == name) with
    | true =>
      -- a texture of that name is there
      unfold performTexture
      simp only [known, Action.run_get_bind, fresh, if_true]
      exact .refused _ rfl
    | false =>
      rw [run_performTexture setup loc name params implementation known fresh]
      exact .texture known fresh

theorem effect_performMakeNamedMaterial (name : String) (params : List (Param α)) :
    Effect setup loc b (.makeNamedMaterial name params)
      ((performMakeNamedMaterial loc name params).run b) := by
  unfold performMakeNamedMaterial
  rw [Action.run_get_bind]
  cases fresh : b.scene.namedMaterials.contains name with
  | true => exact .refused _ rfl
  | false => exact .makeNamedMaterial fresh

theorem effect_performMakeNamedMedium (name : String) (params : List (Param α)) :
    Effect setup loc b (.makeNamedMedium name params)
      ((performMakeNamedMedium setup loc name params).run b) := by
  cases fresh : b.scene.media.contains name with
  | true =>
    unfold performMakeNamedMedium
    simp only [Action.run_get_bind, fresh, if_true]
    exact .refused _ rfl
  | false =>
    rw [run_performMakeNamedMedium setup loc name params fresh]
    exact .makeNamedMedium fresh

theorem effect_performShape (name : String) (params : List (Param α)) :
    Effect setup loc b (.shape name params) ((performShape setup loc name params).run b) := by
  cases moves : b.graphics.ctm.moves with
  | false =>
    rw [run_performShape_of_still setup loc name params moves]
    exact .stillShape moves
  | true =>
    rw [run_performShape_of_moving setup loc name params moves]
    exact .movingShape moves

theorem effect_performObjectInstance (name : String) :
    Effect setup loc b (.objectInstance name)
      ((performObjectInstance setup loc name).run b) := by
  cases object : b.openObject with
  | some outer =>
    -- an object under definition holds no instances
    unfold performObjectInstance
    simp only [Action.run_get_bind, object]
    exact .refused _ rfl
  | none =>
    cases defined : b.scene.objects.contains name with
    | false =>
      unfold performObjectInstance
      simp only [Action.run_get_bind, object, defined, Bool.not_false, if_true]
      exact .refused _ rfl
    | true =>
      rw [run_performObjectInstance setup loc name object defined]
      exact .objectInstance object defined

/-! ## All directives that leave the scopes alone -/

/-- The effect of a directive that opens no scope and closes none. -/
theorem effect_perform {d : Directive α} (plain : d.scopeRole = .plain) :
    Effect setup loc b d ((perform setup loc d).run b) := by
  cases d <;> unfold perform
  case option name value => exact effect_performOption setup loc name value
  case identity => exact effect_transformActive setup loc rfl
  case translate v => exact effect_transformActive setup loc rfl
  case scale v => exact effect_transformActive setup loc rfl
  case rotate degrees axis => exact effect_transformActive setup loc rfl
  case lookAt eye look up => exact effect_performLookAt setup loc eye look up
  case concatTransform entries => exact effect_performConcatTransform setup loc entries
  case transform entries => exact effect_performTransform setup loc entries
  case coordinateSystem name => exact .coordinateSystem
  case coordSysTransform name => exact effect_performCoordSysTransform setup loc name
  case activeTransform slots => exact .activeTransform
  case transformTimes opening closing => exact .transformTimes
  case colorSpace name => exact effect_performColorSpace setup loc name
  case camera name params =>
    rw [run_performCamera]
    exact .camera
  case film name params => exact effect_putEntity setup loc rfl
  case sampler name params => exact effect_putEntity setup loc rfl
  case pixelFilter name params => exact effect_putEntity setup loc rfl
  case integrator name params => exact effect_putEntity setup loc rfl
  case accelerator name params => exact effect_putEntity setup loc rfl
  case attributes target params => exact effect_performAttributes setup loc target params
  case texture name word implementation params =>
    exact effect_performTexture setup loc name word implementation params
  case material name params => exact .material
  case makeNamedMaterial name params => exact effect_performMakeNamedMaterial setup loc name params
  case namedMaterial name => exact .namedMaterial
  case makeNamedMedium name params => exact effect_performMakeNamedMedium setup loc name params
  case mediumInterface inside outside => exact .mediumInterface
  case lightSource name params =>
    rw [run_performLightSource]
    exact .lightSource
  case areaLightSource name params => exact .areaLightSource
  case shape name params => exact effect_performShape setup loc name params
  case reverseOrientation => exact .reverseOrientation
  case objectInstance name => exact effect_performObjectInstance setup loc name
  -- the others open or close a scope or a block
  all_goals exact absurd plain (by simp [Directive.scopeRole])

end Perform

end Builder

end SceneScript
