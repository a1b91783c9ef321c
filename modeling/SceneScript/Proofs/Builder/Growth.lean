import SceneScript.Proofs.Builder.BlockDiscipline
import SceneScript.Proofs.Builder.ReferentialIntegrity

/-!
# Scenes only grow

What a description has put into its scene stays there as it is. Lists get longer at their ends, and
names keep what they stand for; the only thing that still changes is the object that is open, which
takes shapes in and then goes into the scene. `Grows` says this of two builders of one run, and
`grows_after` that it holds of all of them.

Shapes come from Shape directives and from nothing else, each from one of them, and
`entities_accumulate` says where they go and that none of them is lost or counted twice.
-/

set_option autoImplicit false

namespace SceneScript

variable {α : Type}

/-- What a name stands for is the same in a registry with more entries behind. -/
theorem Registry.find?_of_prefix {β : Type} {r r' : Registry β} {name : String} {thing : β}
    (more : r.entries <+: r'.entries) (found : r.find? name = some thing) :
    r'.find? name = some thing := by
  obtain ⟨new, entries⟩ := more
  unfold find? at found ⊢
  rw [← entries, List.lookup_append, found, Option.some_or]

/-- The same object with more shapes of either sort behind those it had. -/
structure ObjectDefinition.Grows (o o' : ObjectDefinition α) : Prop where
  name : o'.name = o.name
  loc : o'.loc = o.loc
  stillShapes : o.stillShapes <+: o'.stillShapes
  movingShapes : o.movingShapes <+: o'.movingShapes

namespace ObjectDefinition.Grows

variable {o o' o'' : ObjectDefinition α}

theorem refl (o : ObjectDefinition α) : o.Grows o :=
  ⟨rfl, rfl, List.prefix_rfl, List.prefix_rfl⟩

theorem trans (h : o.Grows o') (k : o'.Grows o'') : o.Grows o'' :=
  ⟨k.name.trans h.name, k.loc.trans h.loc, h.stillShapes.trans k.stillShapes,
    h.movingShapes.trans k.movingShapes⟩

end ObjectDefinition.Grows

/-- Whether a notice is an error message. -/
def BuildNotice.isError : BuildNotice α → Bool
  | .message m => decide (m.severity = .error)
  | _ => false

/-- Whether a directive is a Shape directive. -/
def Directive.isShape : Directive α → Bool
  | .shape _ _ => true
  | _ => false

theorem Directive.isShape_iff {d : Directive α} :
    d.isShape = true ↔ ∃ name params, d = .shape name params := by
  cases d <;> simp [isShape]

namespace Builder

/-! ## Growth -/

/-- A builder whose entities are those of another one and possibly more. An open object may have
got more shapes, and it may be in the scene under its name now. -/
structure Grows (b b' : Builder α) : Prop where
  materials : b.scene.materials <+: b'.scene.materials
  namedMaterials : b.scene.namedMaterials.entries <+: b'.scene.namedMaterials.entries
  media : b.scene.media.entries <+: b'.scene.media.entries
  floatTextures : b.scene.floatTextures <+: b'.scene.floatTextures
  spectrumTextures : b.scene.spectrumTextures <+: b'.scene.spectrumTextures
  lights : b.scene.lights <+: b'.scene.lights
  areaLights : b.scene.areaLights <+: b'.scene.areaLights
  stillShapes : b.scene.stillShapes <+: b'.scene.stillShapes
  movingShapes : b.scene.movingShapes <+: b'.scene.movingShapes
  objects : b.scene.objects.entries <+: b'.scene.objects.entries
  instances : b.scene.instances <+: b'.scene.instances
  openObject : ∀ o, b.openObject = some o →
    ∃ o', o.Grows o' ∧ (b'.openObject = some o' ∨ b'.scene.objects.find? o.name = some o')

namespace Grows

variable {b c d b' : Builder α}

theorem refl (b : Builder α) : Grows b b where
  materials := List.prefix_rfl
  namedMaterials := List.prefix_rfl
  media := List.prefix_rfl
  floatTextures := List.prefix_rfl
  spectrumTextures := List.prefix_rfl
  lights := List.prefix_rfl
  areaLights := List.prefix_rfl
  stillShapes := List.prefix_rfl
  movingShapes := List.prefix_rfl
  objects := List.prefix_rfl
  instances := List.prefix_rfl
  openObject := fun o opened => ⟨o, .refl o, Or.inl opened⟩

theorem trans (h : Grows b c) (k : Grows c d) : Grows b d where
  materials := h.materials.trans k.materials
  namedMaterials := h.namedMaterials.trans k.namedMaterials
  media := h.media.trans k.media
  floatTextures := h.floatTextures.trans k.floatTextures
  spectrumTextures := h.spectrumTextures.trans k.spectrumTextures
  lights := h.lights.trans k.lights
  areaLights := h.areaLights.trans k.areaLights
  stillShapes := h.stillShapes.trans k.stillShapes
  movingShapes := h.movingShapes.trans k.movingShapes
  objects := h.objects.trans k.objects
  instances := h.instances.trans k.instances
  openObject := by
    intro o opened
    obtain ⟨o', grown, still | closed⟩ := h.openObject o opened
    · obtain ⟨o'', more, place⟩ := k.openObject o' still
      rw [grown.name] at place
      exact ⟨o'', grown.trans more, place⟩
    · exact ⟨o', grown, Or.inr (Registry.find?_of_prefix k.objects closed)⟩

theorem textures (h : Grows b c) (kind : TextureKind) :
    b.scene.textures kind <+: c.scene.textures kind := by
  cases kind with
  | float => exact h.floatTextures
  | spectrum => exact h.spectrumTextures

theorem of_sameEntities (same : SameEntities b b') : Grows b b' := by
  unfold SameEntities at same
  rw [same]
  exact { refl b with }

/-- An open object goes into the scene behind the others, under its own name. -/
theorem finishObject (intact : Intact b) : Grows b b.finishObject := by
  cases opened : b.openObject with
  | none =>
    rw [finishObject_of_none opened]
    exact .refl b
  | some o =>
    have entries := Registry.entries_insert_of_new o (intact.openObject o opened)
    rw [finishObject_of_some opened]
    refine { refl b with
      objects := by rw [entries]; exact List.prefix_append _ _
      openObject := fun p same => ⟨p, .refl p, Or.inr ?_⟩ }
    obtain rfl : o = p := Option.some.inj (opened.symm.trans same)
    simp [Registry.find?_insert]

theorem addStillShape (b : Builder α) (s : StillShape α) : Grows b (b.addStillShape s) := by
  cases opened : b.openObject with
  | none =>
    rw [addStillShape_of_none opened]
    exact { refl b with stillShapes := List.prefix_append _ _ }
  | some o =>
    rw [addStillShape_of_some opened]
    refine { refl b with openObject := fun p same => ?_ }
    obtain rfl : o = p := Option.some.inj (opened.symm.trans same)
    have more : o.Grows { o with stillShapes := o.stillShapes ++ [s] } :=
      { ObjectDefinition.Grows.refl o with stillShapes := List.prefix_append _ _ }
    exact ⟨_, more, Or.inl rfl⟩

theorem addMovingShape (b : Builder α) (s : MovingShape α) : Grows b (b.addMovingShape s) := by
  cases opened : b.openObject with
  | none =>
    rw [addMovingShape_of_none opened]
    exact { refl b with movingShapes := List.prefix_append _ _ }
  | some o =>
    rw [addMovingShape_of_some opened]
    refine { refl b with openObject := fun p same => ?_ }
    obtain rfl : o = p := Option.some.inj (opened.symm.trans same)
    have more : o.Grows { o with movingShapes := o.movingShapes ++ [s] } :=
      { ObjectDefinition.Grows.refl o with movingShapes := List.prefix_append _ _ }
    exact ⟨_, more, Or.inl rfl⟩

theorem lightUp (b : Builder α) (pool : TransformPool α) : Grows b (b.lightUp.withPool pool) :=
  { refl b with areaLights := List.prefix_append _ _ }

variable [Scalar α] {setup : BuildSetup α} {loc : Location α} {d : Directive α}

/-- Whatever a directive files comes behind what is there. -/
theorem step (intact : Intact b) (filing : Filing setup loc b d b') : Grows b b' := by
  cases filing with
  | nothing same _ => exact .of_sameEntities same
  | finished same _ => exact (finishObject intact).trans (.of_sameEntities same)
  | object closed _ =>
    exact { refl b with openObject := fun o opened => absurd (opened.symm.trans closed) (by simp) }
  | @texture _ _ _ _ kind _ =>
    cases kind with
    | float => exact { refl b with floatTextures := List.prefix_append _ _ }
    | spectrum => exact { refl b with spectrumTextures := List.prefix_append _ _ }
  | material => exact { refl b with materials := List.prefix_append _ _ }
  | namedMaterial new =>
    exact { refl b with
      namedMaterials := by rw [Registry.entries_insert_of_new _ new]; exact List.prefix_append _ _ }
  | medium new =>
    exact { refl b with
      media := by rw [Registry.entries_insert_of_new _ new]; exact List.prefix_append _ _ }
  | light => exact { refl b with lights := List.prefix_append _ _ }
  | stillShape _ _ => exact (lightUp b _).trans (addStillShape _ _)
  | movingShape _ _ => exact (lightUp b _).trans (addMovingShape _ _)
  | objectInstance _ _ => exact { refl b with instances := List.prefix_append _ _ }

end Grows

section Run

variable [Scalar α] {setup : BuildSetup α} {b : Builder α}

/-- Directives in turn, failed or not, add to the entities that are there and change none of
them. -/
theorem grows_after (reach : Reachable setup b) (ds : List (LocatedDirective α)) :
    Grows b (after setup b ds) := by
  induction ds generalizing b with
  | nil => exact .refl b
  | cons d rest ih =>
    have first : Grows b (next setup b d) :=
      .step (intact_of_reachable reach) (filing_interpretAt reach d)
    exact first.trans (ih (reach.next d))

end Run

/-! ## Where shapes go -/

/-- A builder that has all the shapes of `b` and, behind them, new ones: in the open object if there
is one, and in the scene if there is none. -/
structure Receives (b b' : Builder α) (still : List (StillShape α))
    (moving : List (MovingShape α)) : Prop where
  openObject : b'.openObject = b.openObject.map fun o =>
    { o with stillShapes := o.stillShapes ++ still, movingShapes := o.movingShapes ++ moving }
  objects : b'.scene.objects = b.scene.objects
  stillShapes : b'.scene.stillShapes =
    if b.openObject.isSome then b.scene.stillShapes else b.scene.stillShapes ++ still
  movingShapes : b'.scene.movingShapes =
    if b.openObject.isSome then b.scene.movingShapes else b.scene.movingShapes ++ moving

theorem receives_addStillShape (b : Builder α) (s : StillShape α) :
    Receives b (b.addStillShape s) [s] [] := by
  cases opened : b.openObject with
  | none =>
    rw [addStillShape_of_none opened]
    exact ⟨by simp [opened], rfl, by simp [opened], by simp [opened]⟩
  | some o =>
    rw [addStillShape_of_some opened]
    exact ⟨by simp [opened], rfl, by simp [opened], by simp [opened]⟩

theorem receives_addMovingShape (b : Builder α) (s : MovingShape α) :
    Receives b (b.addMovingShape s) [] [s] := by
  cases opened : b.openObject with
  | none =>
    rw [addMovingShape_of_none opened]
    exact ⟨by simp [opened], rfl, by simp [opened], by simp [opened]⟩
  | some o =>
    rw [addMovingShape_of_some opened]
    exact ⟨by simp [opened], rfl, by simp [opened], by simp [opened]⟩

theorem length_shapeBases (still : List (StillShape α)) (moving : List (MovingShape α)) :
    (shapeBases still moving).length = still.length + moving.length := by
  simp [shapeBases]

/-- New shapes join those that are there, wherever they go. -/
theorem Receives.perm_shapes {b b' : Builder α} {still : List (StillShape α)}
    {moving : List (MovingShape α)} (receives : Receives b b' still moving) :
    b'.shapes.Perm (shapeBases still moving ++ b.shapes) := by
  classical
  obtain ⟨openObject, objects, stillShapes, movingShapes⟩ := receives
  rw [shapes, shapes, definitions, definitions, openObject, objects, Scene.shapes, Scene.shapes,
    stillShapes, movingShapes, List.perm_iff_count]
  intro s
  -- the parts are the same on both sides, in another order
  cases b.openObject <;>
    simp [ObjectDefinition.shapes, shapeBases, List.count_append] <;> omega

/-- New shapes are counted once. -/
theorem Receives.length_shapes {b b' : Builder α} {still : List (StillShape α)}
    {moving : List (MovingShape α)} (receives : Receives b b' still moving) :
    b'.shapes.length = b.shapes.length + (still.length + moving.length) := by
  rw [receives.perm_shapes.length_eq, List.length_append, length_shapeBases, Nat.add_comm]

/-! ## Accepted directives -/

variable [Scalar α]

/-- Whether a directive is accepted: it does not fail, and it is not answered by an error
message. -/
def accepts (setup : BuildSetup α) (b : Builder α) (d : LocatedDirective α) : Bool :=
  match ((interpretAt setup d).run b).result with
  | .ok _ => ((interpretAt setup d).run b).notices.all fun n => !n.isError
  | .error _ => false

/-- How many Shape directives are accepted when directives are given to a builder in turn, failed
or not. -/
def shapesAccepted (setup : BuildSetup α) : Builder α → List (LocatedDirective α) → Nat
  | _, [] => 0
  | b, d :: rest =>
    (if d.directive.isShape && accepts setup b d then 1 else 0) +
      shapesAccepted setup (next setup b d) rest

section Shape

variable (setup : BuildSetup α) {b : Builder α} (name : String) (params : List (Param α))
  (loc : Location α)

theorem run_interpretAt_shape (world : b.phase = .world) :
    (interpretAt setup ⟨.shape name params, loc⟩).run b =
      (performShape setup loc name params).run b :=
  run_interpretAt_of_placed (by rw [world]; rfl)

omit [Scalar α] in
theorem no_error_in_lightWarnings :
    ((lightWarnings loc b).all fun n => !n.isError) = true := by
  unfold lightWarnings
  split <;> rfl

/-- A Shape directive is accepted in the world block, and nowhere else. -/
theorem accepts_shape_iff :
    accepts setup b ⟨.shape name params, loc⟩ = true ↔ b.phase = .world := by
  constructor
  · intro accepted
    by_contra elsewhere
    have misplaced : ¬ (Directive.shape name params : Directive α).AllowedIn b.phase := by
      cases phase : b.phase with
      | world => exact absurd phase elsewhere
      | options => exact fun allowed => allowed rfl
      | finished => exact id
    obtain ⟨text, run⟩ :=
      run_interpretAt_of_ignored setup (d := ⟨.shape name params, loc⟩) (Or.inl misplaced)
    simp [accepts, run, BuildNotice.isError] at accepted
  · intro world
    unfold accepts
    rw [run_interpretAt_shape setup name params loc world]
    cases moves : b.graphics.ctm.moves with
    | false =>
      rw [run_performShape_of_still setup loc name params moves]
      exact no_error_in_lightWarnings loc
    | true =>
      rw [run_performShape_of_moving setup loc name params moves]
      exact no_error_in_lightWarnings loc

/-- A Shape directive in the world adds a shape that stands still, if the current transform does. -/
theorem receives_next_stillShape (world : b.phase = .world)
    (still : b.graphics.ctm.moves = false) :
    Receives b (next setup b ⟨.shape name params, loc⟩) [(stillShape setup loc name params b).1]
      [] := by
  unfold next
  rw [run_interpretAt_shape setup name params loc world,
    run_performShape_of_still setup loc name params still]
  obtain ⟨object, objects, stillShapes, movingShapes⟩ := receives_addStillShape
    (b.lightUp.withPool (stillShape setup loc name params b).2)
    (stillShape setup loc name params b).1
  exact ⟨object, objects, stillShapes, movingShapes⟩

/-- A Shape directive in the world adds a shape that moves, if the current transform does. -/
theorem receives_next_movingShape (world : b.phase = .world)
    (moves : b.graphics.ctm.moves = true) :
    Receives b (next setup b ⟨.shape name params, loc⟩) []
      [(movingShape setup loc name params b).1] := by
  unfold next
  rw [run_interpretAt_shape setup name params loc world,
    run_performShape_of_moving setup loc name params moves]
  obtain ⟨object, objects, stillShapes, movingShapes⟩ := receives_addMovingShape
    (b.lightUp.withPool (movingShape setup loc name params b).2)
    (movingShape setup loc name params b).1
  exact ⟨object, objects, stillShapes, movingShapes⟩

/-- Where the shape of an accepted directive goes: it stands still or moves as the current
transform does. -/
theorem receives_next_shape (world : b.phase = .world) :
    (b.graphics.ctm.moves = false → ∃ s : StillShape α,
        s.base.entity = b.worldEntity .shape name params loc ∧
        Receives b (next setup b ⟨.shape name params, loc⟩) [s] []) ∧
      (b.graphics.ctm.moves = true → ∃ s : MovingShape α,
        s.base.entity = b.worldEntity .shape name params loc ∧
        Receives b (next setup b ⟨.shape name params, loc⟩) [] [s]) := by
  constructor
  · intro still
    exact ⟨_, rfl, receives_next_stillShape setup name params loc world still⟩
  · intro moves
    exact ⟨_, rfl, receives_next_movingShape setup name params loc world moves⟩

/-- An accepted Shape directive adds one shape, which takes what is in force. -/
theorem perm_shapes_next_shape (world : b.phase = .world) :
    (next setup b ⟨.shape name params, loc⟩).shapes.Perm
      (b.shapeBase name params loc b.nextAreaLight :: b.shapes) := by
  cases moves : b.graphics.ctm.moves with
  | false => exact (receives_next_stillShape setup name params loc world moves).perm_shapes
  | true => exact (receives_next_movingShape setup name params loc world moves).perm_shapes

end Shape

/-! ## Counting shapes -/

section Counting

variable {setup : BuildSetup α} {b b' : Builder α}

omit [Scalar α] in
theorem SameEntities.shapes (same : SameEntities b b') : b'.shapes = b.shapes := by
  unfold SameEntities at same
  rw [same]
  rfl

/-- A directive that is no Shape directive in the world block leaves the shapes as they are. -/
theorem Filing.shapes {loc : Location α} {d : Directive α} (intact : Intact b)
    (filing : Filing setup loc b d b') (other : ¬ (d.isShape = true ∧ b.phase = .world)) :
    b'.shapes = b.shapes := by
  cases filing with
  | nothing same _ => exact same.shapes
  | finished same _ => exact same.shapes.trans (shapes_finishObject intact.openObject)
  | object closed _ =>
    -- the new object has no shapes
    simp [Builder.shapes, definitions, closed, ObjectDefinition.shapes, shapeBases]
  | @texture _ _ _ _ kind _ => cases kind <;> rfl
  | stillShape world _ => exact absurd ⟨rfl, world⟩ other
  | movingShape world _ => exact absurd ⟨rfl, world⟩ other
  | _ => rfl

/-- A directive adds a shape if and only if it is an accepted Shape directive, and then one. -/
theorem length_shapes_next (reach : Reachable setup b) (d : LocatedDirective α) :
    (next setup b d).shapes.length =
      b.shapes.length + if d.directive.isShape && accepts setup b d then 1 else 0 := by
  by_cases counted : d.directive.isShape = true ∧ b.phase = .world
  · obtain ⟨shape, world⟩ := counted
    obtain ⟨directive, loc⟩ := d
    obtain ⟨name, params, rfl⟩ := Directive.isShape_iff.1 shape
    rw [(accepts_shape_iff setup name params loc).2 world, shape, Bool.and_true, if_pos rfl]
    obtain ⟨still, moving⟩ := receives_next_shape setup name params loc world
    cases moves : b.graphics.ctm.moves with
    | false =>
      obtain ⟨s, -, receives⟩ := still moves
      exact receives.length_shapes
    | true =>
      obtain ⟨s, -, receives⟩ := moving moves
      exact receives.length_shapes
  · have same := (filing_interpretAt reach d).shapes (intact_of_reachable reach) counted
    rw [same, if_neg, Nat.add_zero]
    intro accepted
    rw [Bool.and_eq_true] at accepted
    obtain ⟨directive, loc⟩ := d
    obtain ⟨name, params, rfl⟩ := Directive.isShape_iff.1 accepted.1
    exact counted ⟨accepted.1, (accepts_shape_iff setup name params loc).1 accepted.2⟩

/-- A run adds as many shapes as it has accepted Shape directives. -/
theorem length_shapes_after (reach : Reachable setup b) (ds : List (LocatedDirective α)) :
    (after setup b ds).shapes.length = b.shapes.length + shapesAccepted setup b ds := by
  induction ds generalizing b with
  | nil => rfl
  | cons d rest ih =>
    rw [after_cons, ih (reach.next d), length_shapes_next reach d, shapesAccepted, Nat.add_assoc]

end Counting

/-- After any directives in turn, failed or not. An accepted Shape directive adds one shape with the
name, parameters and location of the directive, behind the others in the open object, or in the
scene if none is open; the shape stands still if the two current transforms are the same, and it
moves if they are not. All shapes, in objects or not, are as many as Shape directives were accepted.
Whatever comes then only adds to the scene (`Grows`), so that no name of a material, a medium or an
object ever stands for anything else. -/
theorem entities_accumulate (setup : BuildSetup α) {start : Builder α} (fresh : Fresh start)
    (ds more : List (LocatedDirective α)) :
    let b := after setup start ds
    let later := after setup b more
    (∀ name params loc, accepts setup b ⟨.shape name params, loc⟩ = true →
      (b.graphics.ctm.opening.same b.graphics.ctm.closing = true → ∃ s : StillShape α,
        s.base.entity = b.worldEntity .shape name params loc ∧
        Receives b (next setup b ⟨.shape name params, loc⟩) [s] []) ∧
      (b.graphics.ctm.opening.same b.graphics.ctm.closing = false → ∃ s : MovingShape α,
        s.base.entity = b.worldEntity .shape name params loc ∧
        Receives b (next setup b ⟨.shape name params, loc⟩) [] [s])) ∧
      b.shapes.length = shapesAccepted setup start ds ∧
      Grows b later ∧
      (∀ name m, b.scene.namedMaterials.find? name = some m →
        later.scene.namedMaterials.find? name = some m) ∧
      (∀ name m, b.scene.media.find? name = some m → later.scene.media.find? name = some m) ∧
      ∀ name o, b.scene.objects.find? name = some o → later.scene.objects.find? name = some o := by
  intro b later
  have reach : Reachable setup b := (Reachable.fresh fresh).after ds
  have grows : Grows b later := grows_after reach more
  refine ⟨fun name params loc accepted => ?_, ?_, grows,
    fun name m => Registry.find?_of_prefix grows.namedMaterials,
    fun name m => Registry.find?_of_prefix grows.media,
    fun name o => Registry.find?_of_prefix grows.objects⟩
  · obtain ⟨still, moving⟩ := receives_next_shape setup name params loc
      ((accepts_shape_iff setup name params loc).1 accepted)
    exact ⟨fun same => still (by simp [TransformPair.moves, same]),
      fun differ => moving (by simp [TransformPair.moves, differ])⟩
  · have none : start.shapes.length = 0 := by
      obtain ⟨settings, pool, rfl⟩ := fresh
      rfl
    rw [length_shapes_after (Reachable.fresh fresh), none, Nat.zero_add]

/-- Control: a shape in the options block, which is not accepted, one in the world and one in an
object that is left open. -/
theorem entities_accumulate_open_object :
    let setup : BuildSetup Float := ⟨standardHash, .absent⟩
    let start : Builder Float := initial .defaults
    let ds : List (LocatedDirective Float) :=
      [⟨.shape "sphere" [], .unknown⟩, ⟨.worldBegin, .unknown⟩, ⟨.shape "disk" [], .unknown⟩,
        ⟨.objectBegin "ball", .unknown⟩, ⟨.shape "sphere" [], .unknown⟩]
    let b := after setup start ds
    Fresh start ∧ b.shapes.length = 2 ∧ Grows b (after setup b [⟨.worldEnd, .unknown⟩]) := by
  intro setup start ds b
  have two : shapesAccepted setup start ds = 2 := by decide
  obtain ⟨-, count, grows, -⟩ :=
    entities_accumulate setup (fresh_initial .defaults) ds [⟨.worldEnd, .unknown⟩]
  exact ⟨fresh_initial _, count.trans two, grows⟩

end Builder

end SceneScript
