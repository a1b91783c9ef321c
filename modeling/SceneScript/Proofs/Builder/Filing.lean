import SceneScript.Proofs.Builder.Lockstep

/-!
# What a directive files

The scene of a builder is a collection of entities, most of them in lists and some under names, and
beside them the builder keeps the object that is open and two counts. Of all directives, few change
any of this, and those that do add one thing each. `Filing` says which one adds what, and
`filing_interpretAt` that every directive given to a reachable builder is one of these, or leaves
the entities alone. It is read off the effects of directives, and off the outcomes of Begins and
Ends.

The same case distinction keeps track of the materials in force, now or after the End of a scope
(`materialsInForce`).
-/

set_option autoImplicit false

namespace SceneScript.Builder

variable {α : Type}

/-! ## Entities and materials -/

/-- A builder with all its entities taken from another one: what the lists and names of the scene
stand for, the open object, and the counts of objects and instances. -/
def withEntitiesOf (b a : Builder α) : Builder α :=
  { b with
    openObject := a.openObject
    objectsDefined := a.objectsDefined
    instancesPlaced := a.instancesPlaced
    scene := { b.scene with
      materials := a.scene.materials
      namedMaterials := a.scene.namedMaterials
      media := a.scene.media
      floatTextures := a.scene.floatTextures
      spectrumTextures := a.scene.spectrumTextures
      lights := a.scene.lights
      areaLights := a.scene.areaLights
      stillShapes := a.scene.stillShapes
      movingShapes := a.scene.movingShapes
      objects := a.scene.objects
      instances := a.scene.instances } }

/-- Two builders with the same entities. -/
def SameEntities (b b' : Builder α) : Prop :=
  b' = b'.withEntitiesOf b

/-- The material of the next shape, and those that the Ends of the open scopes bring back. -/
def materialsInForce (b : Builder α) : List MaterialReference :=
  b.graphics.material :: b.savedGraphics.map (·.material)

namespace SameEntities

variable {b c d : Builder α}

theorem refl (b : Builder α) : SameEntities b b :=
  rfl

theorem trans (h : SameEntities b c) (k : SameEntities c d) : SameEntities b d := by
  unfold SameEntities at h k ⊢
  rw [k, h]
  rfl

/-- Builders with the same entities still have the same ones after the open object has gone into
the scene. -/
theorem finishObject (same : SameEntities b c) :
    SameEntities b.finishObject c.finishObject := by
  unfold SameEntities at same ⊢
  rw [same]
  cases opened : b.openObject <;> simp [Builder.finishObject, withEntitiesOf, opened]

end SameEntities

/-- The End of a scope brings back materials that were in force. -/
theorem sameEntities_restore (b : Builder α) (kind : ScopeKind) :
    SameEntities b (b.restore kind) ∧ (b.restore kind).materialsInForce ⊆ b.materialsInForce := by
  cases kind with
  | transforms =>
    cases saved : b.savedTransforms with
    | nil => simp [restore, saved, SameEntities.refl]
    | cons t ts =>
      simp only [restore, saved]
      exact ⟨rfl, List.Subset.refl _⟩
  | attributes | object =>
    cases saved : b.savedGraphics with
    | nil => simp [restore, saved, SameEntities.refl]
    | cons g gs =>
      simp only [restore, saved]
      refine ⟨rfl, ?_⟩
      simp only [materialsInForce, saved]
      exact List.subset_cons_self _ _

theorem sameEntities_restoreAll (b : Builder α) (scopes : List (Scope α)) :
    SameEntities b (b.restoreAll scopes) ∧
      (b.restoreAll scopes).materialsInForce ⊆ b.materialsInForce := by
  induction scopes generalizing b with
  | nil => exact ⟨.refl b, List.Subset.refl _⟩
  | cons s rest ih =>
    obtain ⟨same, fewer⟩ := sameEntities_restore b s.kind
    obtain ⟨same', fewer'⟩ := ih (b.restore s.kind)
    exact ⟨same.trans same', fun m hm => fewer (fewer' hm)⟩

@[simp] theorem materialsInForce_finishObject (b : Builder α) :
    b.finishObject.materialsInForce = b.materialsInForce := by
  simp [materialsInForce]

/-! ## One directive -/

variable [Scalar α]

/-- What a directive at `loc` adds to the entities of a builder `b`, with the builder that it
leaves. -/
inductive Filing (setup : BuildSetup α) (loc : Location α) (b : Builder α) :
    Directive α → Builder α → Prop
  /-- Nothing. The material in force may have changed to one with a name. -/
  | nothing {d : Directive α} {b' : Builder α} : SameEntities b b' →
      (∀ m ∈ b'.materialsInForce, m ∈ b.materialsInForce ∨ ∃ name, m = .named name) →
      Filing setup loc b d b'
  /-- The open object, if there is one, goes into the scene. -/
  | finished {d : Directive α} {b' : Builder α} : SameEntities b.finishObject b' →
      b'.materialsInForce ⊆ b.materialsInForce → Filing setup loc b d b'
  | object {name : String} : b.openObject = none → b.scene.objects.contains name = false →
      Filing setup loc b (.objectBegin name)
        { b with
          savedGraphics := b.graphics :: b.savedGraphics
          openScopes := b.openScopes.push .object loc
          graphics := b.graphics.handDown .shape [objectName b.graphics name loc]
          openObject := some ⟨name, loc, [], []⟩ }
  | texture {name word implementation : String} {params : List (Param α)} {kind : TextureKind} :
      (b.scene.textures kind).any (·.sceneName == name) = false →
      Filing setup loc b (.texture name word implementation params)
        { b with
          pool := (placedTexture setup loc name params implementation b).2
          scene := b.scene.addTexture
            (placedTexture setup loc name params implementation b).1 kind }
  | material {name : String} {params : List (Param α)} :
      Filing setup loc b (.material name params)
        { b with
          scene := { b.scene with
            materials := b.scene.materials ++ [b.worldEntity .material name params loc] }
          graphics := { b.graphics with material := .index b.scene.materials.length } }
  | namedMaterial {name : String} {params : List (Param α)} :
      b.scene.namedMaterials.contains name = false →
      Filing setup loc b (.makeNamedMaterial name params)
        { b with
          scene := { b.scene with
            namedMaterials :=
              b.scene.namedMaterials.insert name (b.worldEntity .material name params loc) } }
  | medium {name : String} {params : List (Param α)} : b.scene.media.contains name = false →
      Filing setup loc b (.makeNamedMedium name params)
        { b with
          pool := (placedMedium setup loc name params b).2
          scene := { b.scene with
            media := b.scene.media.insert name (placedMedium setup loc name params b).1 } }
  | light {name : String} {params : List (Param α)} :
      Filing setup loc b (.lightSource name params)
        { b with
          pool := (placedLight setup loc name params b).2
          scene := { b.scene with
            lights := b.scene.lights ++ [(placedLight setup loc name params b).1] } }
  | stillShape {name : String} {params : List (Param α)} : b.phase = .world →
      b.graphics.ctm.moves = false →
      Filing setup loc b (.shape name params)
        ((b.lightUp.withPool (stillShape setup loc name params b).2).addStillShape
          (stillShape setup loc name params b).1)
  | movingShape {name : String} {params : List (Param α)} : b.phase = .world →
      b.graphics.ctm.moves = true →
      Filing setup loc b (.shape name params)
        ((b.lightUp.withPool (movingShape setup loc name params b).2).addMovingShape
          (movingShape setup loc name params b).1)
  | objectInstance {name : String} : b.openObject = none → b.scene.objects.contains name = true →
      Filing setup loc b (.objectInstance name)
        { b with
          pool := (placementHere setup b).2
          instancesPlaced := b.instancesPlaced + 1
          scene := { b.scene with
            instances := b.scene.instances ++ [⟨name, loc, (placementHere setup b).1⟩] } }

namespace Filing

variable {setup : BuildSetup α} {loc : Location α} {b b' : Builder α} {d : Directive α}

theorem unchanged : Filing setup loc b d b :=
  .nothing (.refl b) fun _ => Or.inl

/-- A directive that leaves the entities, the material and the saved graphics states alone. -/
theorem of_same (same : SameEntities b b') (material : b'.graphics.material = b.graphics.material)
    (saved : b'.savedGraphics = b.savedGraphics) : Filing setup loc b d b' := by
  refine .nothing same fun m hm => Or.inl ?_
  rwa [materialsInForce, material, saved] at hm

/-- The End of a scope moves the object into the scene if the scope is that of an object. -/
theorem leave (rest : List (Scope α)) (kind : ScopeKind) :
    Filing setup loc b d (b.leave rest kind) := by
  obtain ⟨same, fewer⟩ := sameEntities_restore { b with openScopes := ⟨rest⟩ } kind
  have same' : SameEntities b ({ b with openScopes := ⟨rest⟩ }.restore kind) := same
  unfold Builder.leave
  split
  · refine .finished same'.finishObject ?_
    rw [materialsInForce_finishObject]
    exact fewer
  · exact .nothing same' fun m hm => Or.inl (fewer hm)

theorem endWorld : Filing setup loc b d b.endWorld := by
  obtain ⟨same, fewer⟩ :=
    sameEntities_restoreAll { b with openScopes := .none } b.openScopes.scopes
  have same' : SameEntities b ({ b with openScopes := .none }.restoreAll b.openScopes.scopes) :=
    same
  refine .finished (same'.finishObject.trans rfl) ?_
  rw [← materialsInForce_finishObject] at fewer
  exact fewer

/-- What concerns the image as a whole is among no entities. -/
theorem of_imagePart {name : String} {params : List (Param α)}
    {put : Entity α → Scene α → Scene α}
    (part : d.imagePart? = some (name, params, put)) (e : Entity α) :
    Filing setup loc b d { b with scene := put e b.scene } := by
  cases d with
  | film | sampler | pixelFilter | integrator | accelerator =>
    obtain ⟨-, -, rfl⟩ := part
    exact .of_same rfl rfl rfl
  | _ => exact absurd part (by simp [Directive.imagePart?])

/-- What a directive files that leaves the scopes alone. -/
theorem of_effect {o : Outcome (BuildError α) (Builder α) (BuildNotice α) Unit}
    (effect : Effect setup loc b d o) (placed : misplaced? b.phase d = none) :
    Filing setup loc b d o.state := by
  cases effect with
  | image part => exact of_imagePart part _
  | texture _ fresh => exact .texture fresh
  | material => exact .material
  | makeNamedMaterial fresh => exact .namedMaterial fresh
  | @namedMaterial name =>
    -- the new material has a name, and the saved ones are as they were
    refine .nothing rfl fun m hm => ?_
    rcases List.mem_cons.1 hm with rfl | hm
    · exact Or.inr ⟨name, rfl⟩
    · exact Or.inl (List.mem_cons_of_mem _ hm)
  | makeNamedMedium fresh => exact .medium fresh
  | lightSource => exact .light
  | stillShape still => exact .stillShape (phase_eq_world_of_placed placed rfl) still
  | movingShape moves => exact .movingShape (phase_eq_world_of_placed placed rfl) moves
  | objectInstance closed defined => exact .objectInstance closed defined
  | _ => exact .of_same rfl rfl rfl

end Filing

variable {setup : BuildSetup α} {b : Builder α}

/-- What a directive files in a reachable builder. -/
theorem filing_interpretAt (reach : Reachable setup b) (d : LocatedDirective α) :
    Filing setup d.loc b d.directive (next setup b d) := by
  by_cases plain : d.directive.scopeRole = .plain
  · cases placed : misplaced? b.phase d.directive with
    | some text =>
      rw [next_of_misplaced placed]
      exact .unchanged
    | none =>
      rw [next_of_placed placed]
      exact .of_effect (effect_perform setup d.loc plain) placed
  · have outcome := outcome_interpretAt reach d
    unfold next
    generalize (interpretAt setup d).run b = o at outcome ⊢
    generalize d.directive = directive at plain outcome ⊢
    cases outcome with
    | ignored _ => exact .unchanged
    | refused _ _ => exact .unchanged
    | plain contradicts _ _ _ => exact absurd contradicts plain
    | worldBegin _ => exact .of_same rfl rfl rfl
    | attributeBegin _ =>
      -- the material is in force twice now
      exact .nothing rfl fun m hm => Or.inl (by simpa [materialsInForce] using hm)
    | transformBegin _ => exact .of_same rfl rfl rfl
    | objectBegin _ closed fresh => exact .object closed fresh
    | closed _ _ _ => exact .leave _ _
    | worldEnd _ => exact .endWorld

end SceneScript.Builder
