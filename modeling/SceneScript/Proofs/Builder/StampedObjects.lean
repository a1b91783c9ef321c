import SceneScript.Proofs.Builder.Acceptance
import SceneScript.Proofs.Builder.SharedInverses
import SceneScript.Proofs.Builder.Viewpoints

/-!
# Stamped objects

The shapes of an object are recorded in render space, as if they stood where the object is defined,
and an instance of the object is a transform from render space to render space. A shape of an
instance therefore stands where its own transform and then that of the instance take it. Both
contain the move from the world to render space, and the instance takes it back before it applies
the current transforms and the move once more. So the move counts once, and the shape stands where
it would stand if its current transform had been composed with that of the instance in the first
place (`stamps_stand_where_placed`).

The move cannot be taken back if it is not one by numbers, which happens when a camera has no place
in the world (`stamps_of_placeless_cameras_go_astray`).
-/

set_option autoImplicit false

namespace SceneScript

variable {α : Type}

/-! ## Handles for the opening time -/

/-- The handle for the opening time of where an instance stands. -/
def Placement.opening : Placement α → Handle α
  | .still h => h
  | .moving t => t.opening

/-- Shapes that stand still, or shapes that move: the entity of each, and the handle for the opening
time of its transform to render space. -/
def openingsOf (moving : Bool) (still : List (StillShape α)) (moved : List (MovingShape α)) :
    List (Entity α × Handle α) :=
  if moving then moved.map fun s => (s.base.entity, s.renderFromObject.opening)
  else still.map fun s => (s.base.entity, s.renderFromObject)

/-- The shapes of an object, with their handles for the opening time. -/
def ObjectDefinition.openings (o : ObjectDefinition α) (moving : Bool) :
    List (Entity α × Handle α) :=
  openingsOf moving o.stillShapes o.movingShapes

/-- The shapes of a scene that belong to no object, with their handles for the opening time. -/
def Scene.openings (s : Scene α) (moving : Bool) : List (Entity α × Handle α) :=
  openingsOf moving s.stillShapes s.movingShapes

theorem openingsOf_append (moving : Bool) (still still' : List (StillShape α))
    (moved moved' : List (MovingShape α)) :
    openingsOf moving (still ++ still') (moved ++ moved') =
      openingsOf moving still moved ++ openingsOf moving still' moved' := by
  cases moving <;> simp [openingsOf]

/-- Whatever comes behind it, an entry of a growing list keeps its place. -/
theorem getElem?_of_concat_prefix {β : Type} {l l' : List β} {x : β} (grows : l ++ [x] <+: l') :
    l'[l.length]? = some x := by
  have inside : l.length < (l ++ [x]).length := by simp
  rw [List.prefix_iff_getElem?.1 grows l.length inside, List.getElem_concat_length rfl]

/-- The shapes of an object keep their places when it grows. -/
theorem ObjectDefinition.Grows.openings {o o' : ObjectDefinition α} (grows : o.Grows o')
    (moving : Bool) : o.openings moving <+: o'.openings moving := by
  cases moving with
  | true => exact grows.movingShapes.map _
  | false => exact grows.stillShapes.map _

/-! ## Back and forth -/

namespace Transform

/-- What is taken back by an instance was applied by the shape. -/
theorem forward_compose_around {r : Transform ℝ} (regular : r.Regular) (s t : Transform ℝ) :
    (((r.compose s).compose r.inverse).compose (r.compose t)).forward =
      (r.compose (s.compose t)).forward := by
  have cancels : r.backward.mul r.forward = .identity := regular.mul_eq_identity.2
  calc (((r.forward.mul s.forward).mul r.backward).mul (r.forward.mul t.forward))
      = (r.forward.mul s.forward).mul ((r.backward.mul r.forward).mul t.forward) := by
        simp only [Mat4.mul_assoc]
    _ = (r.forward.mul s.forward).mul t.forward := by rw [cancels, Mat4.identity_mul]
    _ = r.forward.mul (s.forward.mul t.forward) := Mat4.mul_assoc _ _ _

end Transform

namespace Builder

/-! ## Shapes -/

section Shapes

variable [Scalar α] [LawfulEquality α] (setup : BuildSetup α) {b : Builder α} (name : String)
  (params : List (Param α)) (loc : Location α)

/-- A Shape directive in the world adds a shape with a handle for the current transform of the
opening time in render space. -/
theorem exists_receives_opening (world : b.phase = .world) :
    ∃ still moved h, Receives b (next setup b ⟨.shape name params, loc⟩) still moved ∧
      openingsOf b.graphics.ctm.moves still moved = [(b.worldEntity .shape name params loc, h)] ∧
      h.transform.same b.renderFromObject.opening = true := by
  cases moves : b.graphics.ctm.moves with
  | false =>
    exact ⟨_, _, _, receives_next_stillShape setup name params loc world moves, rfl,
      renderFromObject_stillShape setup b name params loc⟩
  | true =>
    have stands : (movingShape setup loc name params b).1.renderFromObject.StandsFor
        b.renderFromObject := standsFor_internedPair b _
    exact ⟨_, _, _, receives_next_movingShape setup name params loc world moves, rfl, stands.1⟩

/-- In an object, the new shape comes behind the others of its sort. -/
theorem exists_opening_of_object (world : b.phase = .world) {o : ObjectDefinition α}
    (opened : b.openObject = some o) :
    ∃ o' h, (next setup b ⟨.shape name params, loc⟩).openObject = some o' ∧ o'.name = o.name ∧
      o'.openings b.graphics.ctm.moves =
        o.openings b.graphics.ctm.moves ++ [(b.worldEntity .shape name params loc, h)] ∧
      h.transform.same b.renderFromObject.opening = true := by
  obtain ⟨still, moved, h, receives, new, same⟩ :=
    exists_receives_opening setup name params loc world
  refine ⟨{ o with
      stillShapes := o.stillShapes ++ still
      movingShapes := o.movingShapes ++ moved }, h, ?_, rfl, ?_, same⟩
  · rw [receives.openObject, opened]
    rfl
  · rw [ObjectDefinition.openings, openingsOf_append, new]
    rfl

/-- And so it does in the scene. -/
theorem exists_opening_of_scene (world : b.phase = .world) (closed : b.openObject = none) :
    ∃ h, (next setup b ⟨.shape name params, loc⟩).scene.openings b.graphics.ctm.moves =
        b.scene.openings b.graphics.ctm.moves ++ [(b.worldEntity .shape name params loc, h)] ∧
      h.transform.same b.renderFromObject.opening = true := by
  obtain ⟨still, moved, h, receives, new, same⟩ :=
    exists_receives_opening setup name params loc world
  refine ⟨h, ?_, same⟩
  rw [Scene.openings, receives.stillShapes, receives.movingShapes, closed]
  simp only [Option.isSome_none, Bool.false_eq_true, if_false, openingsOf_append, new]
  rfl

/-- A shape has its place in its object for good: at any later moment outside of objects, the object
is in the scene, and the shape where it was put. -/
theorem exists_opening_of_closed (reach : Reachable setup b) (world : b.phase = .world)
    {o : ObjectDefinition α} (opened : b.openObject = some o)
    {later : List (LocatedDirective α)}
    (closed : (after setup b (⟨.shape name params, loc⟩ :: later)).openObject = none) :
    ∃ o' h, (after setup b (⟨.shape name params, loc⟩ :: later)).scene.objects.find? o.name =
        some o' ∧
      (o'.openings b.graphics.ctm.moves)[(o.openings b.graphics.ctm.moves).length]? =
        some (b.worldEntity .shape name params loc, h) ∧
      h.transform.same b.renderFromObject.opening = true := by
  obtain ⟨p, h, recorded, named, openings, same⟩ :=
    exists_opening_of_object setup name params loc world opened
  have grows := grows_after (reach.next ⟨.shape name params, loc⟩) later
  obtain ⟨o', grown, still | found⟩ := grows.openObject p recorded
  · exact absurd (still.symm.trans closed) (by simp)
  · refine ⟨o', h, named ▸ found, ?_, same⟩
    exact getElem?_of_concat_prefix (openings ▸ grown.openings b.graphics.ctm.moves)

end Shapes

/-! ## Instances -/

section Instances

variable [Scalar α] (setup : BuildSetup α) {b : Builder α} (name : String) (loc : Location α)

/-- An instance in the world block, outside of objects, of an object that is defined. -/
theorem run_interpretAt_objectInstance (world : b.phase = .world) (closed : b.openObject = none)
    (defined : b.scene.objects.contains name = true) :
    (interpretAt setup ⟨.objectInstance name, loc⟩).run b =
      ⟨.ok (),
        { b with
          pool := (placementHere setup b).2
          instancesPlaced := b.instancesPlaced + 1
          scene := { b.scene with
            instances := b.scene.instances ++ [⟨name, loc, (placementHere setup b).1⟩] } },
        []⟩ :=
  (run_interpretAt_of_placed (by rw [world]; rfl)).trans
    (run_performObjectInstance setup loc name closed defined)

/-- An instance is accepted in the world block, outside of objects, for an object that is
defined. -/
theorem accepts_objectInstance_iff :
    accepts setup b ⟨.objectInstance name, loc⟩ = true ↔
      b.phase = .world ∧ b.openObject = none ∧ b.scene.objects.contains name = true := by
  constructor
  · intro accepted
    have world := phase_eq_world_of_placed (placed_of_accepts accepted) rfl
    have done := finished_of_accepts accepted
    have effect := effect_of_accepts accepted rfl
    refine ⟨world, ?_⟩
    generalize (interpretAt setup _).run b = o at done effect
    cases effect with
    | ignored void => exact absurd void Bool.false_ne_true
    | refused _ _ => exact absurd done (by simp)
    | transformed does => exact absurd does (by simp [Directive.transformation?])
    | image part => exact absurd part (by simp [Directive.imagePart?])
    | objectInstance closed defined => exact ⟨closed, defined⟩
  · rintro ⟨world, closed, defined⟩
    have run := run_interpretAt_objectInstance setup name loc world closed defined
    apply accepts_of_finished
    · rw [run]
    · rw [run]
      exact fun n hn => absurd hn List.not_mem_nil

/-- An accepted instance comes behind the others. -/
theorem instances_next_objectInstance
    (accepted : accepts setup b ⟨.objectInstance name, loc⟩ = true) :
    (next setup b ⟨.objectInstance name, loc⟩).scene.instances =
      b.scene.instances ++ [⟨name, loc, (placementHere setup b).1⟩] := by
  obtain ⟨world, closed, defined⟩ := (accepts_objectInstance_iff setup name loc).1 accepted
  rw [next, run_interpretAt_objectInstance setup name loc world closed defined]

/-- An instance has a handle for the transform of the opening time, whether it moves or not. -/
theorem opening_placementHere [LawfulEquality α] (b : Builder α) :
    (placementHere setup b).1.opening.transform.same b.renderFromInstance.opening = true := by
  unfold placementHere internedPlacement
  split
  · exact (standsFor_internedPair b b.renderFromInstance).1
  · exact (TransformPool.finds_intern _ _ _).same

/-- An accepted instance has its place in the scene for good. -/
theorem exists_instance [LawfulEquality α] (reach : Reachable setup b)
    (accepted : accepts setup b ⟨.objectInstance name, loc⟩ = true)
    (later : List (LocatedDirective α)) :
    ∃ i, (after setup b (⟨.objectInstance name, loc⟩ :: later)).scene.instances[
          b.scene.instances.length]? = some i ∧ i.name = name ∧
      i.placement.opening.transform.same b.renderFromInstance.opening = true := by
  have grown := (grows_after (reach.next ⟨.objectInstance name, loc⟩) later).instances
  rw [instances_next_objectInstance setup name loc accepted] at grown
  exact ⟨_, getElem?_of_concat_prefix grown, rfl, opening_placementHere setup b⟩

end Instances

/-! ## Placing a shape directly -/

/-- Directives that compose a transform with the current ones of both times. -/
def composing [Scalar α] (t : Transform α) (loc : Location α) : List (LocatedDirective α) :=
  [⟨.activeTransform .all, loc⟩, ⟨.concatTransform t.toList, loc⟩]

theorem after_composing [Scalar α] (setup : BuildSetup α) {b : Builder α} (world : b.phase = .world)
    (t : Transform α) (loc : Location α) :
    after setup b (composing t loc) =
      { b with
        graphics := { b.graphics with
          active := .all
          ctm := b.graphics.ctm.map fun _ s => s.compose (.ofMatrix t.forward) } } := by
  have first : next setup b ⟨.activeTransform .all, loc⟩ =
      { b with graphics := { b.graphics with active := .all } } :=
    next_of_placed (by rw [world]; rfl)
  rw [composing, after_cons, after_cons, after_nil, first,
    next_of_placed (by simp only [world]; rfl)]
  rfl

/-! ## Where instances stand -/

section Exact

variable {setup : BuildSetup ℝ} {start : Builder ℝ} {before : List (LocatedDirective ℝ)}

/-- From the world block on, render space stays where it is. -/
theorem renderFromWorld_of_split (fresh : Fresh start)
    (world : (after setup start before).phase = .world) (rest : List (LocatedDirective ℝ)) :
    (after setup start (before ++ rest)).renderFromWorld =
      (after setup start before).renderFromWorld := by
  have reach : Reachable setup (after setup start before) := (Reachable.fresh fresh).after before
  rw [(viewed_after fresh _).renderFromWorld, (viewed_after fresh before).renderFromWorld,
    lastView_append, lastView_of_world reach (by simp [world]), Option.none_or]

/-- Without a camera, render space is the world. -/
theorem opening_renderFromWorld_of_none (fresh : Fresh start)
    (view : lastView setup start before = none) :
    (after setup start before).renderFromWorld.opening = .identity := by
  rw [(viewed_after fresh before).renderFromWorld, view]
  rfl

/-- Under a camera, render space is the world moved by its place. -/
theorem opening_renderFromWorld_of_some (fresh : Fresh start) {v : TransformPair ℝ}
    (view : lastView setup start before = some v) {p : Vec3 ℝ} (stands : v.opening.StandsAt p) :
    (after setup start before).renderFromWorld.opening = .translate p.neg := by
  rw [(viewed_after fresh before).renderFromWorld, view]
  exact get_renderSpaceOf_of_standsAt (built_of_lastView fresh view) .opening stands

/-- If the cameras have places, the move to render space is one of the regular transforms. -/
theorem regular_renderFromWorld (fresh : Fresh start)
    (cameras : ∀ v ∈ views setup start before, ∃ p, v.opening.StandsAt p) :
    (after setup start before).renderFromWorld.opening.Regular := by
  cases view : lastView setup start before with
  | none =>
    rw [opening_renderFromWorld_of_none fresh view]
    exact .identity
  | some v =>
    obtain ⟨p, stands⟩ := cameras v (mem_views_of_lastView view)
    rw [opening_renderFromWorld_of_some fresh view stands]
    exact .translate _

/-- The transforms of a shape and of an instance, recorded in one render space, one after the
other. -/
theorem forward_stamped {b c : Builder ℝ} (same : c.renderFromWorld = b.renderFromWorld)
    (regular : b.renderFromWorld.opening.Regular) {p h : Handle ℝ}
    (stamped : p.transform.same c.renderFromInstance.opening = true)
    (shape : h.transform.same b.renderFromObject.opening = true) :
    (p.transform.compose h.transform).forward =
      (b.renderFromWorld.opening.compose
        (c.graphics.ctm.opening.compose b.graphics.ctm.opening)).forward := by
  let r := b.renderFromWorld.opening
  have stampForward : p.transform.forward =
      ((r.compose c.graphics.ctm.opening).compose r.inverse).forward := by
    rw [Mat4.same_iff.1 stamped, renderFromInstance, Builder.renderFromObject, same]
    rfl
  have shapeForward : h.transform.forward = (r.compose b.graphics.ctm.opening).forward :=
    Mat4.same_iff.1 shape
  calc p.transform.forward.mul h.transform.forward
      = (((r.compose c.graphics.ctm.opening).compose r.inverse).compose
          (r.compose b.graphics.ctm.opening)).forward := by rw [stampForward, shapeForward]; rfl
    _ = (r.compose (c.graphics.ctm.opening.compose b.graphics.ctm.opening)).forward :=
        Transform.forward_compose_around regular _ _

/-- A shape that is put into the scene with a transform composed with the current ones. -/
theorem exists_opening_composed (setup : BuildSetup ℝ) {b : Builder ℝ} (world : b.phase = .world)
    (closed : b.openObject = none) (t : Transform ℝ) (site : Location ℝ) (name : String)
    (params : List (Param ℝ)) (loc : Location ℝ) :
    let direct := after setup b (composing t site)
    ∃ k, (next setup direct ⟨.shape name params, loc⟩).scene.openings direct.graphics.ctm.moves =
        b.scene.openings direct.graphics.ctm.moves ++
          [(direct.worldEntity .shape name params loc, k)] ∧
      k.transform.forward =
        (b.renderFromWorld.opening.compose (b.graphics.ctm.opening.compose t)).forward := by
  intro direct
  have composed : direct = _ := after_composing setup world t site
  have placed : direct.phase = .world := by rw [composed]; exact world
  have outside : direct.openObject = none := by rw [composed]; exact closed
  have scene : direct.scene = b.scene := by rw [composed]
  obtain ⟨k, openings, same⟩ := exists_opening_of_scene setup name params loc placed outside
  refine ⟨k, scene ▸ openings, (Mat4.same_iff.1 same).trans ?_⟩
  rw [composed]
  rfl

/-- In exact arithmetic, after any directives in turn, failed or not. All Camera directives that
were accepted came under views with a place at the opening time: render space is the world moved by
the place of the last camera, or the world itself if there is none. A shape that was accepted while
an object was open has its place in the object for good, and every later instance of the object that
is accepted has its place in the scene. At the opening time, the transform of the shape and then
that of the instance come to the current transform at the shape, then the one at the instance, then
the move from the world to render space. This is what the shape would have got if it had been put in
the place of the instance, with its own transform composed with the current ones. -/
theorem stamps_stand_where_placed (setup : BuildSetup ℝ) (fresh : Fresh start)
    (before between rest : List (LocatedDirective ℝ)) (name : String) (params : List (Param ℝ))
    (loc site : Location ℝ) (o : ObjectDefinition ℝ)
    (cameras : ∀ v ∈ views setup start before, ∃ p, v.opening.StandsAt p) :
    let shape : LocatedDirective ℝ := ⟨.shape name params, loc⟩
    let stamp : LocatedDirective ℝ := ⟨.objectInstance o.name, site⟩
    let atShape := after setup start before
    let atStamp := after setup start (before ++ shape :: between)
    let final := after setup start (before ++ shape :: (between ++ stamp :: rest))
    let moving := atShape.graphics.ctm.moves
    let t := atShape.graphics.ctm.opening
    let s := atStamp.graphics.ctm.opening
    let direct := after setup atStamp (composing t site)
    accepts setup atShape shape = true → atShape.openObject = some o →
    accepts setup atStamp stamp = true →
    (lastView setup start before = none → final.renderFromWorld.opening = .identity) ∧
    (∀ v p, lastView setup start before = some v → v.opening.StandsAt p →
      final.renderFromWorld.opening = .translate p.neg) ∧
    ∃ i o' h k,
      final.scene.instances[atStamp.scene.instances.length]? = some i ∧ i.name = o.name ∧
      final.scene.objects.find? o.name = some o' ∧
      (o'.openings moving)[(o.openings moving).length]? =
        some (atShape.worldEntity .shape name params loc, h) ∧
      (i.placement.opening.transform.compose h.transform).forward =
        (final.renderFromWorld.opening.compose (s.compose t)).forward ∧
      (next setup direct shape).scene.openings direct.graphics.ctm.moves =
        atStamp.scene.openings direct.graphics.ctm.moves ++
          [(direct.worldEntity .shape name params loc, k)] ∧
      k.transform.forward = (i.placement.opening.transform.compose h.transform).forward := by
  intro shape stamp atShape atStamp final moving t s direct accepted opened stamped
  have world : atShape.phase = .world := (accepts_shape_iff setup name params loc).1 accepted
  obtain ⟨there, closed, -⟩ := (accepts_objectInstance_iff setup o.name site).1 stamped
  have reach : Reachable setup atShape := (Reachable.fresh fresh).after before
  have reachStamp : Reachable setup atStamp := (Reachable.fresh fresh).after _
  have toStamp : atStamp = after setup atShape (shape :: between) := after_append setup _ _ _
  have toEnd : final = after setup atStamp (stamp :: rest) := by
    simp only [final, atStamp, ← after_append, List.append_assoc, List.cons_append]
  -- the shape is in its object, and the instance in the scene
  obtain ⟨o', h, found, recorded, shapeSame⟩ :=
    exists_opening_of_closed setup name params loc reach world opened (toStamp ▸ closed)
  obtain ⟨i, placed, named, stampSame⟩ := exists_instance setup o.name site reachStamp stamped rest
  have grown := (grows_after reachStamp (stamp :: rest)).objects
  -- both were recorded in the render space of the whole world block
  have spaceStamp : atStamp.renderFromWorld = atShape.renderFromWorld :=
    renderFromWorld_of_split fresh world _
  have spaceEnd : final.renderFromWorld = atShape.renderFromWorld :=
    renderFromWorld_of_split fresh world _
  have stands := forward_stamped spaceStamp (regular_renderFromWorld fresh cameras) stampSame
    shapeSame
  obtain ⟨k, direct, forward⟩ := exists_opening_composed setup there closed t site name params
    loc
  refine ⟨fun view => ?_, fun v p view stands => ?_, i, o', h, k, toEnd ▸ placed, named, ?_,
    recorded, ?_, direct, ?_⟩
  · rw [spaceEnd]
    exact opening_renderFromWorld_of_none fresh view
  · rw [spaceEnd]
    exact opening_renderFromWorld_of_some fresh view stands
  · rw [toEnd]
    exact Registry.find?_of_prefix grown (toStamp ▸ found)
  · rw [spaceEnd]
    exact stands
  · rw [forward, spaceStamp]
    exact stands.symm

/-- Control: a camera five units back, a sphere that is stretched in an object, and the object
placed three units to the right. -/
theorem stamps_stand_where_placed_three_right :
    let setup : BuildSetup ℝ := ⟨standardHash, .absent⟩
    let start : Builder ℝ := initial .defaults
    let shape : LocatedDirective ℝ := ⟨.shape "sphere" [], .unknown⟩
    let stamp : LocatedDirective ℝ := ⟨.objectInstance "ball", .unknown⟩
    let before : List (LocatedDirective ℝ) :=
      [⟨.translate ⟨0, 0, 5⟩, .unknown⟩, ⟨.camera "perspective" [], .unknown⟩,
        ⟨.worldBegin, .unknown⟩, ⟨.objectBegin "ball", .unknown⟩, ⟨.scale ⟨2, 2, 2⟩, .unknown⟩]
    let between : List (LocatedDirective ℝ) :=
      [⟨.objectEnd, .unknown⟩, ⟨.translate ⟨3, 0, 0⟩, .unknown⟩]
    let stretched : Transform ℝ := .compose .identity (.scale ⟨2, 2, 2⟩)
    let aside : Transform ℝ := .compose .identity (.translate ⟨3, 0, 0⟩)
    let final := after setup start (before ++ shape :: (between ++ [stamp]))
    Fresh start ∧ (∀ v ∈ views setup start before, v.opening.StandsAt ⟨0, 0, -5⟩) ∧
      final.renderFromWorld.opening = .translate (Vec3.neg ⟨0, 0, -5⟩) ∧
      accepts setup (after setup start before) shape = true ∧
      (after setup start before).openObject = some ⟨"ball", .unknown, [], []⟩ ∧
      accepts setup (after setup start (before ++ shape :: between)) stamp = true ∧
      ∃ i o h, final.scene.instances[0]? = some i ∧ final.scene.objects.find? "ball" = some o ∧
        (o.openings false)[0]? =
          some ((after setup start before).worldEntity .shape "sphere" [] .unknown, h) ∧
        (i.placement.opening.transform.compose h.transform).forward =
          (final.renderFromWorld.opening.compose (aside.compose stretched)).forward := by
  intro setup start shape stamp before between stretched aside final
  have fresh : Fresh start := fresh_initial _
  let back : Transform ℝ := .compose .identity (.translate ⟨0, 0, 5⟩)
  have moved : back.forward = .translation ⟨0, 0, 5⟩ := Mat4.identity_mul _
  have behind : back.StandsAt ⟨0, 0, -5⟩ := by
    simpa [Vec3.neg] using Transform.standsAt_of_translation moved
  have view : lastView setup start before = some (.still back) := rfl
  have cameras : ∀ v ∈ views setup start before, v.opening.StandsAt ⟨0, 0, -5⟩ := by
    have one : views setup start before = [.still back] := rfl
    rw [one, List.forall_mem_singleton]
    exact behind
  have still : (after setup start before).graphics.ctm.moves = false :=
    congrArg not (Transform.same_refl stretched)
  have accepted : accepts setup (after setup start before) shape = true :=
    (accepts_shape_iff setup "sphere" [] .unknown).2 rfl
  have opened : (after setup start before).openObject = some ⟨"ball", .unknown, [], []⟩ := rfl
  have recorded : next setup (after setup start before) shape = _ :=
    congrArg Outcome.state ((run_interpretAt_shape setup "sphere" [] .unknown rfl).trans
      (run_performShape_of_still setup .unknown "sphere" [] still))
  have there : after setup start (before ++ shape :: between) =
      after setup (after setup start before) (shape :: between) := after_append _ _ _ _
  have closed : (after setup (after setup start before) (shape :: between)).openObject = none := by
    rw [after_cons, recorded]
    rfl
  obtain ⟨ball, -, found, -⟩ := exists_opening_of_closed setup "sphere" [] .unknown
    ((Reachable.fresh fresh).after before) rfl opened closed
  have stamped : accepts setup (after setup start (before ++ shape :: between)) stamp = true := by
    rw [there]
    refine (accepts_objectInstance_iff setup "ball" .unknown).2 ⟨?_, closed, ?_⟩
    · rw [after_cons, recorded]
      rfl
    · exact Option.isSome_iff_exists.2 ⟨ball, found⟩
  rw [after_cons, recorded] at there
  obtain ⟨-, space, i, o, h, -, placed, -, found, place, forward, -⟩ :=
    stamps_stand_where_placed setup fresh before between [] "sphere" [] .unknown .unknown
      ⟨"ball", .unknown, [], []⟩ (fun v hv => ⟨_, cameras v hv⟩) accepted opened stamped
  have none : (after setup start (before ++ shape :: between)).scene.instances = [] := by
    rw [there]
    rfl
  have moved : (after setup start (before ++ shape :: between)).graphics.ctm.opening = aside := by
    rw [there]
    rfl
  rw [none] at placed
  rw [moved] at forward
  rw [still] at place
  exact ⟨fresh, cameras, space _ _ view behind, accepted, opened, stamped, i, o, h, placed, found,
    place, forward⟩

end Exact

/-- For cameras without a place this fails, though every directive is accepted without a notice. The
camera of the first run shrinks the world to a point, that of the second one flattens it, and that
of the third one has its place at infinity. The fourth run has a camera at the origin, and another
one before it that flattens the world; the instance stands under the way back from that one, which
has kept a name. -/
theorem stamps_of_placeless_cameras_go_astray :
    let setup : BuildSetup Float := ⟨standardHash, .absent⟩
    let start : Builder Float := initial .defaults
    let shape : LocatedDirective Float := ⟨.shape "sphere" [], .unknown⟩
    let stamp : LocatedDirective Float := ⟨.objectInstance "ball", .unknown⟩
    let camera : LocatedDirective Float := ⟨.camera "perspective" [], .unknown⟩
    let point : List (LocatedDirective Float) := [⟨.scale ⟨0, 0, 0⟩, .unknown⟩, camera]
    let flat : List (LocatedDirective Float) :=
      [⟨.transform [1, 0, 0, 0, 0, 1, 0, 0, 0, 0, 0, 0, 0, 0, 0, 1], .unknown⟩, camera]
    let faraway : List (LocatedDirective Float) :=
      [⟨.transform [1, 0, 0, 0, 0, 1, 0, 0, 0, 0, 0, 1, 0, 0, 1, 0], .unknown⟩, camera]
    let second : List (LocatedDirective Float) :=
      [⟨.transform [1, 0, 0, 0, -1, 1, 0, 0, -1, 0, 1, 0, -1, 0, 0, 1], .unknown⟩,
        ⟨.scale ⟨0, 1, 1⟩, .unknown⟩, camera, ⟨.coordSysTransform "camera", .unknown⟩,
        ⟨.coordinateSystem "flat", .unknown⟩, ⟨.identity, .unknown⟩, camera]
    let ones : LocatedDirective Float := ⟨.transform (List.replicate 16 1), .unknown⟩
    ∀ run ∈ [(point, [], []), (flat, [], []), (faraway, [], []),
        (second, [ones], [⟨.coordSysTransform "flat", .unknown⟩])],
      let before := run.1 ++ [⟨.worldBegin, .unknown⟩, ⟨.objectBegin "ball", .unknown⟩] ++ run.2.1
      let between := ⟨.objectEnd, .unknown⟩ :: run.2.2
      let ds := before ++ shape :: (between ++ [stamp, ⟨.worldEnd, .unknown⟩])
      let t := (after setup start before).graphics.ctm
      let s := (after setup start (before ++ shape :: between)).graphics.ctm
      let final := after setup start ds
      (noticesOf setup start ds).isEmpty = true ∧ final.phase = .finished ∧
        final.scene.instances.length = 1 ∧
        (final.scene.objects.find? "ball").map (·.stillShapes.length) = some 1 ∧
        ∀ i ∈ final.scene.instances, ∀ o ∈ final.scene.objects.find? "ball", ∀ h ∈ o.stillShapes,
          (i.placement.opening.transform.compose h.renderFromObject.transform).same
            (final.renderFromWorld.opening.compose (s.opening.compose t.opening)) = false := by
  decide +kernel

end Builder

end SceneScript
