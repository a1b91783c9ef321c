import Mathlib.Data.List.Nodup
import Mathlib.Data.List.Perm.Basic
import SceneScript.Proofs.Builder.Filing
import SceneScript.Scalar.Double

/-!
# References between entities

Entities of a scene refer to one another by place in a list or by name. A place is only as good as
the list is long, and references live long: a graphics state saved before a hundred materials comes
back after them, and an object is kept aside until its definition ends.

`Intact` says that all of them are good, with all that is needed to keep them so; every directive
keeps it, whatever it comes to (`Intact.step`), and so it holds of every reachable builder. What it
means for the scene is put together in `referential_integrity`.
-/

set_option autoImplicit false

namespace SceneScript

variable {α : Type}

/-! ## Shapes and what they refer to -/

/-- Whether a reference by place finds one of `count` materials. A name stands for itself. -/
def MaterialReference.InRange (count : Nat) : MaterialReference → Prop
  | .index place => 0 ≤ place ∧ place < count
  | .named _ => True

theorem MaterialReference.InRange.mono {count more : Nat} {m : MaterialReference}
    (inRange : m.InRange count) (le : count ≤ more) : m.InRange more := by
  cases m with
  | index place =>
    obtain ⟨nonneg, lt⟩ := inRange
    exact ⟨nonneg, by omega⟩
  | named name => trivial

/-- What shapes have in common, still ones and moving ones. -/
def shapeBases (still : List (StillShape α)) (moving : List (MovingShape α)) :
    List (ShapeBase α) :=
  still.map (·.base) ++ moving.map (·.base)

theorem shapeBases_still_concat (still : List (StillShape α)) (moving : List (MovingShape α))
    (s : StillShape α) :
    (shapeBases (still ++ [s]) moving).Perm (s.base :: shapeBases still moving) := by
  simp only [shapeBases, List.map_append, List.map_cons, List.map_nil, List.append_assoc,
    List.singleton_append]
  exact List.perm_middle

theorem shapeBases_moving_concat (still : List (StillShape α)) (moving : List (MovingShape α))
    (s : MovingShape α) :
    (shapeBases still (moving ++ [s])).Perm (s.base :: shapeBases still moving) := by
  simp only [shapeBases, List.map_append, List.map_cons, List.map_nil, ← List.append_assoc]
  exact List.perm_append_singleton _ _

/-- The shapes of an object. -/
def ObjectDefinition.shapes (o : ObjectDefinition α) : List (ShapeBase α) :=
  shapeBases o.stillShapes o.movingShapes

/-- The shapes of a scene that belong to no object. -/
def Scene.shapes (s : Scene α) : List (ShapeBase α) :=
  shapeBases s.stillShapes s.movingShapes

namespace Builder

/-- All objects, those of the scene and the one that is open. -/
def definitions (b : Builder α) : List (ObjectDefinition α) :=
  b.scene.objects.entries.map (·.2) ++ b.openObject.toList

/-- All shapes, in objects or not. -/
def shapes (b : Builder α) : List (ShapeBase α) :=
  b.scene.shapes ++ b.definitions.flatMap (·.shapes)

theorem mem_shapes_iff {b : Builder α} {s : ShapeBase α} :
    s ∈ b.shapes ↔ s ∈ b.scene.shapes ∨ ∃ o ∈ b.definitions, s ∈ o.shapes := by
  rw [shapes, List.mem_append, List.mem_flatMap]

theorem mem_definitions_iff {b : Builder α} {o : ObjectDefinition α} :
    o ∈ b.definitions ↔ (∃ e ∈ b.scene.objects.entries, e.2 = o) ∨ b.openObject = some o := by
  simp [definitions]

section FinishObject

variable {b : Builder α} (new : ∀ o, b.openObject = some o → b.scene.objects.contains o.name = false)

include new

/-- Among all objects, the open one keeps its place when it goes into the scene. -/
theorem definitions_finishObject : b.finishObject.definitions = b.definitions := by
  cases opened : b.openObject with
  | none => rw [finishObject_of_none opened]
  | some o =>
    have entries := Registry.entries_insert_of_new o (new o opened)
    simp [definitions, finishObject_of_some opened, opened, entries]

theorem shapes_finishObject : b.finishObject.shapes = b.shapes := by
  have scene : b.finishObject.scene.shapes = b.scene.shapes := by
    cases opened : b.openObject <;> simp [finishObject, opened, Scene.shapes]
  rw [shapes, shapes, definitions_finishObject new, scene]

end FinishObject

/-! ## The invariant -/

/-- All references of a builder are good. -/
structure Intact (b : Builder α) : Prop where
  materialsInForce : ∀ m ∈ b.materialsInForce, m.InRange b.scene.materials.length
  materials : ∀ s ∈ b.shapes, s.material.InRange b.scene.materials.length
  /-- Every area light belongs to one shape outside of objects. -/
  areaLights : (b.scene.shapes.filterMap (·.areaLight)).Perm (List.range b.scene.areaLights.length)
  unlit : ∀ o ∈ b.definitions, ∀ s ∈ o.shapes, s.areaLight = none
  instances : ∀ i ∈ b.scene.instances, b.scene.objects.contains i.name = true
  objects : ∀ e ∈ b.scene.objects.entries, e.2.name = e.1
  openObject : ∀ o, b.openObject = some o → b.scene.objects.contains o.name = false
  textures : ∀ kind, ((b.scene.textures kind).map (·.sceneName)).Nodup
  objectsDefined : b.objectsDefined = b.scene.objects.size
  instancesPlaced : b.instancesPlaced = b.scene.instances.length

namespace Intact

variable {b b' : Builder α}

/-- Only the entities and the materials in force count. -/
theorem of_sameEntities (intact : Intact b) (same : SameEntities b b')
    (inForce : ∀ m ∈ b'.materialsInForce, m ∈ b.materialsInForce ∨ ∃ name, m = .named name) :
    Intact b' := by
  have ranges : ∀ m ∈ b'.materialsInForce, m.InRange b.scene.materials.length := by
    intro m hm
    rcases inForce m hm with before | ⟨name, rfl⟩
    · exact intact.materialsInForce m before
    · trivial
  unfold SameEntities at same
  rw [same] at ranges ⊢
  exact { intact with materialsInForce := ranges }

/-- The open object becomes one of the scene. -/
theorem finishObject (intact : Intact b) : Intact b.finishObject := by
  have definitions := definitions_finishObject intact.openObject
  have shapes := shapes_finishObject intact.openObject
  cases opened : b.openObject with
  | none => rwa [finishObject_of_none opened]
  | some o =>
    have entries := Registry.entries_insert_of_new o (intact.openObject o opened)
    rw [finishObject_of_some opened] at definitions shapes ⊢
    refine { intact with
      materials := by rw [shapes]; exact intact.materials
      unlit := by rw [definitions]; exact intact.unlit
      instances := fun i hi => ?_
      objects := fun e he => ?_
      openObject := fun o none => absurd none (by simp)
      objectsDefined := by simp [Registry.size, entries, intact.objectsDefined] }
    · obtain ⟨e, he, name⟩ := Registry.contains_iff.1 (intact.instances i hi)
      exact Registry.contains_iff.2 ⟨e, by rw [entries]; exact List.mem_append_left _ he, name⟩
    · rw [entries] at he
      rcases List.mem_append.1 he with he | he
      · exact intact.objects e he
      · rw [List.mem_singleton.1 he]

/-- An object that is opened has no shapes yet. -/
theorem openingObject {name : String} {loc : Location α} {graphics : GraphicsState α}
    {saved : List (GraphicsState α)} {scopes : OpenScopes α} (intact : Intact b)
    (closed : b.openObject = none) (new : b.scene.objects.contains name = false)
    (inForce : graphics.material :: saved.map (·.material) ⊆ b.materialsInForce) :
    Intact { b with
      savedGraphics := saved
      openScopes := scopes
      graphics := graphics
      openObject := some ⟨name, loc, [], []⟩ } := by
  have empty : (⟨name, loc, [], []⟩ : ObjectDefinition α).shapes = [] := rfl
  have definitions : b.definitions = b.scene.objects.entries.map (·.2) := by
    simp [Builder.definitions, closed]
  refine { intact with
    materialsInForce := fun m hm => intact.materialsInForce m (inForce hm)
    materials := fun s hs => intact.materials s ?_
    unlit := fun o ho => ?_
    openObject := fun o opened => ?_ }
  · rw [Builder.shapes, definitions]
    simpa [Builder.shapes, Builder.definitions, empty] using hs
  · rcases List.mem_append.1 ho with ho | ho
    · exact intact.unlit o (by rw [definitions]; exact ho)
    · rw [Option.mem_toList.1 ho |> Option.some.inj |>.symm, empty]
      simp
  · rw [← Option.some.inj opened]
    exact new

/-! ### Shapes -/

section Shape

variable {still : List (StillShape α)} {moving : List (MovingShape α)} {base : ShapeBase α}
  {pool : TransformPool α} (intact : Intact b) (material : base.material = b.graphics.material)
  (light : base.areaLight = b.nextAreaLight)

include intact material in
theorem newMaterial : base.material.InRange b.scene.materials.length := by
  rw [material]
  exact intact.materialsInForce _ List.mem_cons_self

include intact light in
/-- The light of the next shape takes the next place. -/
theorem newAreaLight (added : (shapeBases still moving).Perm (base :: b.scene.shapes)) :
    ((shapeBases still moving).filterMap (·.areaLight)).Perm
      (List.range b.lightUp.scene.areaLights.length) := by
  have places := added.filterMap (·.areaLight)
  cases lit : b.lightOfNextShape with
  | none =>
    rw [nextAreaLight, lit, Option.map_none] at light
    rw [List.filterMap_cons_none light] at places
    rw [lightUp_of_none lit]
    exact places.trans intact.areaLights
  | some l =>
    rw [nextAreaLight, lit, Option.map_some] at light
    rw [List.filterMap_cons_some light] at places
    have more : b.lightUp.scene.areaLights.length = b.scene.areaLights.length + 1 := by
      simp [lightUp, lit]
    rw [more, List.range_succ]
    exact (places.trans (intact.areaLights.cons _)).trans (List.perm_append_singleton _ _).symm

include intact material light

/-- A shape outside of objects takes the light in force with it. -/
theorem topLevelShape (added : (shapeBases still moving).Perm (base :: b.scene.shapes)) :
    Intact { b.lightUp with
      pool := pool
      scene := { b.lightUp.scene with stillShapes := still, movingShapes := moving } } := by
  refine { intact with
    materials := fun s hs => ?_
    areaLights := intact.newAreaLight light added }
  rcases mem_shapes_iff.1 hs with hs | hs
  · rcases List.mem_cons.1 (added.mem_iff.1 hs) with rfl | hs
    · exact intact.newMaterial material
    · exact intact.materials s (mem_shapes_iff.2 (Or.inl hs))
  · exact intact.materials s (mem_shapes_iff.2 (Or.inr hs))

/-- A shape of an object has no light. -/
theorem objectShape {o grown : ObjectDefinition α} (opened : b.openObject = some o)
    (name : grown.name = o.name) (added : grown.shapes.Perm (base :: o.shapes)) :
    Intact { b with pool := pool, openObject := some grown } := by
  have dark : base.areaLight = none := by
    rw [light, nextAreaLight, lightOfNextShape_of_some opened, Option.map_none]
  have known : o ∈ b.definitions := mem_definitions_iff.2 (Or.inr opened)
  -- an object is one of those from before, or it is the open one with one more shape
  have objects : ∀ p ∈ ({ b with pool := pool, openObject := some grown } : Builder α).definitions,
      p ∈ b.definitions ∨ p = grown := by
    intro p hp
    rcases mem_definitions_iff.1 hp with filed | same
    · exact Or.inl (mem_definitions_iff.2 (Or.inl filed))
    · exact Or.inr (Option.some.inj same).symm
  refine { intact with
    materials := fun s hs => ?_
    unlit := fun p hp s hs => ?_
    openObject := fun p same => ?_ }
  · rcases mem_shapes_iff.1 hs with outside | ⟨p, hp, inside⟩
    · exact intact.materials s (mem_shapes_iff.2 (Or.inl outside))
    · rcases objects p hp with before | rfl
      · exact intact.materials s (mem_shapes_iff.2 (Or.inr ⟨p, before, inside⟩))
      · rcases List.mem_cons.1 (added.mem_iff.1 inside) with rfl | older
        · exact intact.newMaterial material
        · exact intact.materials s (mem_shapes_iff.2 (Or.inr ⟨o, known, older⟩))
  · rcases objects p hp with before | rfl
    · exact intact.unlit p before s hs
    · rcases List.mem_cons.1 (added.mem_iff.1 hs) with rfl | hs
      · exact dark
      · exact intact.unlit o known s hs
  · rw [← Option.some.inj same, name]
    exact intact.openObject o opened

end Shape

/-! ### Every directive -/

/-- A texture of a new name. -/
theorem addTexture {texture : Texture α} {kind : TextureKind} {pool : TransformPool α}
    (intact : Intact b)
    (new : (b.scene.textures kind).any (·.sceneName == texture.sceneName) = false) :
    Intact { b with pool := pool, scene := b.scene.addTexture texture kind } := by
  have names : ∀ other, (((b.scene.addTexture texture kind).textures other).map
      (·.sceneName)).Nodup := by
    intro other
    rw [Scene.textures_addTexture]
    split
    · rename_i same
      have absent : texture.sceneName ∉ (b.scene.textures kind).map (·.sceneName) := by
        simpa using new
      rw [List.map_append, List.map_singleton, ← List.concat_eq_append]
      exact (intact.textures kind).concat absent
    · exact intact.textures other
  cases kind <;> exact { intact with textures := names }

variable [Scalar α] {setup : BuildSetup α} {loc : Location α} {d : Directive α}

theorem stillShape (intact : Intact b) (name : String) (params : List (Param α)) :
    Intact ((b.lightUp.withPool (Builder.stillShape setup loc name params b).2).addStillShape
      (Builder.stillShape setup loc name params b).1) := by
  have material : (Builder.stillShape setup loc name params b).1.base.material =
      b.graphics.material := rfl
  have light : (Builder.stillShape setup loc name params b).1.base.areaLight =
      b.nextAreaLight := rfl
  cases opened : b.openObject with
  | none =>
    rw [addStillShape_of_none (by simp [opened])]
    exact intact.topLevelShape material light (shapeBases_still_concat _ _ _)
  | some o =>
    rw [lightUp_of_none (lightOfNextShape_of_some opened),
      addStillShape_of_some ((openObject_withPool _).trans opened)]
    exact intact.objectShape material light opened rfl (shapeBases_still_concat _ _ _)

theorem movingShape (intact : Intact b) (name : String) (params : List (Param α)) :
    Intact ((b.lightUp.withPool (Builder.movingShape setup loc name params b).2).addMovingShape
      (Builder.movingShape setup loc name params b).1) := by
  have material : (Builder.movingShape setup loc name params b).1.base.material =
      b.graphics.material := rfl
  have light : (Builder.movingShape setup loc name params b).1.base.areaLight =
      b.nextAreaLight := rfl
  cases opened : b.openObject with
  | none =>
    rw [addMovingShape_of_none (by simp [opened])]
    exact intact.topLevelShape material light (shapeBases_moving_concat _ _ _)
  | some o =>
    rw [lightUp_of_none (lightOfNextShape_of_some opened),
      addMovingShape_of_some ((openObject_withPool _).trans opened)]
    exact intact.objectShape material light opened rfl (shapeBases_moving_concat _ _ _)

/-- Whatever a directive files keeps the references good. -/
theorem step (intact : Intact b) (filing : Filing setup loc b d b') : Intact b' := by
  cases filing with
  | nothing same inForce => exact intact.of_sameEntities same inForce
  | finished same fewer =>
    refine intact.finishObject.of_sameEntities same fun m hm => Or.inl ?_
    rw [materialsInForce_finishObject]
    exact fewer hm
  | object closed new =>
    -- the material of the builder is saved, and it stays in force
    refine intact.openingObject closed new fun m hm => ?_
    simpa [Builder.materialsInForce, GraphicsState.handDown] using hm
  | texture new => exact intact.addTexture new
  | @material name params =>
    have longer : b.scene.materials.length ≤
        (b.scene.materials ++ [b.worldEntity .material name params loc]).length := by simp
    refine { intact with
      materialsInForce := fun m hm => ?_
      materials := fun s hs => (intact.materials s hs).mono longer }
    rcases List.mem_cons.1 hm with rfl | hm
    · refine ⟨by omega, ?_⟩
      rw [List.length_append, List.length_singleton]
      omega
    · exact (intact.materialsInForce m (List.mem_cons_of_mem _ hm)).mono longer
  | namedMaterial _ => exact { intact with }
  | medium _ => exact { intact with }
  | light => exact { intact with }
  | stillShape _ _ => exact intact.stillShape _ _
  | movingShape _ _ => exact intact.movingShape _ _
  | objectInstance closed defined =>
    refine { intact with
      instances := fun i hi => ?_
      instancesPlaced := by simp [intact.instancesPlaced] }
    rcases List.mem_append.1 hi with hi | hi
    · exact intact.instances i hi
    · rw [List.mem_singleton.1 hi]
      exact defined

theorem of_fresh (fresh : Fresh b) : Intact b := by
  obtain ⟨settings, pool, rfl⟩ := fresh
  refine ⟨?_, ?_, List.Perm.nil, ?_, ?_, ?_, ?_, ?_, rfl, rfl⟩
  · -- the material in force is the one that every scene has
    intro m hm
    rw [List.mem_singleton.1 hm]
    exact ⟨by omega, by simp [initial, Scene.initial]⟩
  · exact fun s hs => absurd hs List.not_mem_nil
  · exact fun o ho => absurd ho List.not_mem_nil
  · exact fun i hi => absurd hi List.not_mem_nil
  · exact fun e he => absurd he List.not_mem_nil
  · exact fun o opened => absurd opened (by simp [initial])
  · intro kind
    cases kind <;> exact List.nodup_nil

end Intact

variable [Scalar α] {setup : BuildSetup α} {b : Builder α}

/-- The references of every reachable builder are good. -/
theorem intact_of_reachable (reach : Reachable setup b) : Intact b := by
  induction reach with
  | fresh fresh => exact .of_fresh fresh
  | next d reach intact => exact intact.step (filing_interpretAt reach d)

/-- In every reachable builder: materials that are referred to by place are in the list, by the
current graphics state, by saved ones and by all shapes; the area lights of the shapes outside of
objects are all the area lights there are, each of one shape, and shapes of objects have none;
instances name objects of the scene, and every object of the scene is there under its own name;
textures of a kind have different names; and as many objects and instances are counted as there
are. -/
theorem referential_integrity (reach : Reachable setup b) :
    b.graphics.material.InRange b.scene.materials.length ∧
      (∀ g ∈ b.savedGraphics, g.material.InRange b.scene.materials.length) ∧
      (∀ s ∈ b.shapes, s.material.InRange b.scene.materials.length) ∧
      (b.scene.shapes.filterMap (·.areaLight)).Nodup ∧
      (∀ place, place ∈ b.scene.shapes.filterMap (·.areaLight) ↔
        place < b.scene.areaLights.length) ∧
      (∀ o ∈ b.definitions, ∀ s ∈ o.shapes, s.areaLight = none) ∧
      (∀ i ∈ b.scene.instances, ∃ o, b.scene.objects.find? i.name = some o ∧ o.name = i.name) ∧
      (∀ e ∈ b.scene.objects.entries, e.2.name = e.1) ∧
      (b.scene.floatTextures.map (·.sceneName)).Nodup ∧
      (b.scene.spectrumTextures.map (·.sceneName)).Nodup ∧
      b.objectsDefined = b.scene.objects.size ∧
      b.instancesPlaced = b.scene.instances.length := by
  have intact := intact_of_reachable reach
  have current : b.graphics.material ∈ b.materialsInForce := List.mem_cons_self
  have saved : ∀ g ∈ b.savedGraphics, g.material ∈ b.materialsInForce := fun g hg =>
    List.mem_cons_of_mem _ (List.mem_map_of_mem hg)
  refine ⟨intact.materialsInForce _ current, fun g hg => intact.materialsInForce _ (saved g hg),
    intact.materials, ?_, fun place => ?_, intact.unlit, fun i hi => ?_, intact.objects,
    intact.textures .float, intact.textures .spectrum, intact.objectsDefined,
    intact.instancesPlaced⟩
  · exact intact.areaLights.nodup_iff.2 List.nodup_range
  · rw [intact.areaLights.mem_iff, List.mem_range]
  · obtain ⟨o, found⟩ := Option.isSome_iff_exists.1 (intact.instances i hi)
    exact ⟨o, found, intact.objects _ (Registry.mem_of_find?_eq_some found)⟩

/-- Control: two materials, the second one inside of an attribute scope; a shape that emits light;
an object with a shape under the same light, and an instance of it. -/
theorem referential_integrity_lit_shape_and_object :
    let setup : BuildSetup Float := ⟨standardHash, .absent⟩
    let b := after setup (initial .defaults)
      [⟨.worldBegin, .unknown⟩, ⟨.material "diffuse" [], .unknown⟩, ⟨.attributeBegin, .unknown⟩,
        ⟨.material "conductor" [], .unknown⟩, ⟨.areaLightSource "diffuse" [], .unknown⟩,
        ⟨.shape "sphere" [], .unknown⟩, ⟨.objectBegin "ball", .unknown⟩,
        ⟨.shape "sphere" [], .unknown⟩, ⟨.objectEnd, .unknown⟩,
        ⟨.objectInstance "ball", .unknown⟩, ⟨.attributeEnd, .unknown⟩]
    Reachable setup b ∧ b.graphics.material.InRange b.scene.materials.length ∧
      0 ∈ b.scene.shapes.filterMap (·.areaLight) ∧ b.objectsDefined = b.scene.objects.size := by
  intro setup b
  have reach : Reachable setup b := (Reachable.fresh (fresh_initial _)).after _
  have light : 0 < b.scene.areaLights.length := by decide
  obtain ⟨current, -, -, -, lights, -, -, -, -, -, objects, -⟩ := referential_integrity reach
  exact ⟨reach, current, (lights 0).2 light, objects⟩

end Builder

end SceneScript
