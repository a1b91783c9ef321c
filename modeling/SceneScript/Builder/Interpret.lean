import SceneScript.Builder.Entities
import SceneScript.Builder.Scoping
import SceneScript.Builder.Transforms

/-!
# The builder as a meaning of directives

`Builder.perform` carries out a directive that is allowed where it stands; `Builder.interpret`
first checks that it is, and otherwise reports the directive and ignores it. A directive that
cannot be carried out fails, and what it did before failing is kept, so no directive writes
anything before all its conditions are checked.
-/

set_option autoImplicit false

namespace SceneScript.Builder

variable {α : Type} [Scalar α]

/-- Carries out a directive. -/
def perform (setup : BuildSetup α) (loc : Location α) : Directive α → Build α Unit
  | .option name value => performOption loc name value
  | .identity => transformActive (fun _ => .identity)
  | .translate d => composeActive (.translate d)
  | .scale s => composeActive (.scale s)
  | .rotate degrees axis => composeActive (.rotate degrees axis)
  | .lookAt eye look up => performLookAt loc eye look up
  | .concatTransform entries => performConcatTransform loc entries
  | .transform entries => performTransform loc entries
  | .coordinateSystem name => performCoordinateSystem name
  | .coordSysTransform name => performCoordSysTransform loc name
  | .activeTransform slots => modifyGraphics ({ · with active := slots.active })
  | .transformTimes opening closing =>
    Action.modify ({ · with openingTime := opening, closingTime := closing })
  | .colorSpace name => performColorSpace loc name
  | .camera name params => performCamera setup loc name params
  | .film name params => putEntity loc name params (fun e s => { s with film := e })
  | .sampler name params => putEntity loc name params (fun e s => { s with sampler := some e })
  | .pixelFilter name params => putEntity loc name params (fun e s => { s with filter := e })
  | .integrator name params =>
    putEntity loc name params (fun e s => { s with integrator := some e })
  | .accelerator name params =>
    putEntity loc name params (fun e s => { s with accelerator := some e })
  | .worldBegin => performWorldBegin
  | .worldEnd => performWorldEnd setup loc
  | .attributeBegin => performAttributeBegin loc
  | .attributeEnd => performAttributeEnd loc
  | .transformBegin => performTransformBegin loc
  | .transformEnd => performTransformEnd loc
  | .attributes target params => performAttributes loc target params
  | .texture name kind implementation params =>
    performTexture setup loc name kind implementation params
  | .material name params => performMaterial loc name params
  | .makeNamedMaterial name params => performMakeNamedMaterial loc name params
  | .namedMaterial name => modifyGraphics ({ · with material := .named name })
  | .makeNamedMedium name params => performMakeNamedMedium setup loc name params
  | .mediumInterface inside outside => performMediumInterface inside outside
  | .lightSource name params => performLightSource setup loc name params
  | .areaLightSource name params => performAreaLightSource loc name params
  | .shape name params => performShape setup loc name params
  | .reverseOrientation => modifyGraphics (·.reverse)
  | .objectBegin name => performObjectBegin loc name
  | .objectEnd => performObjectEnd loc
  | .objectInstance name => performObjectInstance setup loc name

/-- What is wrong with a directive at this point of the description, if anything is. -/
def misplaced? (phase : Phase) (d : Directive α) : Option String :=
  match phase, d.allowedBlock with
  | .finished, _ =>
    some ("Scene description must be inside options or world block; \"" ++ d.label
      ++ "\" not allowed. Ignoring.")
  | .world, .options =>
    some ("Options cannot be set inside world block; \"" ++ d.label
      ++ "\" not allowed. Ignoring.")
  | .options, .world =>
    some ("Scene description must be inside world block; \"" ++ d.label
      ++ "\" not allowed. Ignoring.")
  | _, _ => none

/-- Carries out a directive where it is allowed, and otherwise reports and ignores it. -/
def interpret (setup : BuildSetup α) (d : Directive α) (loc : Location α) : Build α Unit := do
  let b ← Action.get
  match misplaced? b.phase d with
  | some text => complain loc text
  | none => perform setup loc d

end SceneScript.Builder
