import SceneScript.Proofs.Builder.HandleIdentity
import SceneScript.Proofs.Builder.RenderSpace
import SceneScript.Proofs.Builder.SharedInverses
import SceneScript.Proofs.Builder.Viewpoints

/-!
# Shapes as the camera sees them

A scene leads from a shape to render space and from the camera to render space, so one comes from
the shape to the camera (`Camera.cameraFromShape`). In exact arithmetic this should be the view of
the camera after the transform of the shape: the moves to render space that both contain cancel.

For a shape that stands still they do so at the opening time. At the closing time the shape is still
recorded with the move of the opening time, since a moving camera does not make a shape move, while
the camera has the move of its own time. What remains is the translation between the two places of
the camera (`still_shapes_follow_camera`), and a camera that drives along a street takes the street
with it (`moving_camera_takes_shape_along`).

All this is for cameras that have a place. A view that cannot be taken back leaves a coordinate
system behind whose transform divides by zero (`system_of_flat_camera_comes_back`).
-/

set_option autoImplicit false

namespace SceneScript

/-! ## Cancelling the moves to render space -/

namespace Transform

variable {c k s t : Transform ℝ}

theorem toMatrix_backward_translate_mul (p q : Vec3 ℝ) :
    (translate p.neg).backward.toMatrix * (translate q.neg).forward.toMatrix =
      (translate (p.sub q)).forward.toMatrix := by
  have twice : p.neg.neg = p := by simp [Vec3.neg]
  simp only [translate, twice, Mat4.toMatrix_translation_mul_translation]

/-- A camera with the view `c` and a shape with the transform `t`, each moved to a render space of
its own, at `p` and `q`: the way from the shape to the camera. -/
theorem forward_inverse_compose {p q : Vec3 ℝ} (exactC : c.Exact)
    (regular : c.forward.determinant ≠ 0) (exactK : k.Exact)
    (camera : k.forward = (c.compose (translate p.neg).inverse).inverse.forward)
    (shape : s.forward = ((translate q.neg).compose t).forward) :
    (k.inverse.compose s).forward =
      (c.compose ((translate (p.sub q)).compose t)).forward := by
  -- the stored inverse of `k` may be that of another copy, so it is found by cancelling
  have there : k.forward.toMatrix =
      (translate p.neg).forward.toMatrix * c.backward.toMatrix := by
    rw [camera]
    exact Mat4.toMatrix_mul _ _
  have cancels : k.forward.toMatrix *
      (c.forward.toMatrix * (translate p.neg).backward.toMatrix) = 1 := by
    rw [there, mul_assoc, ← mul_assoc c.backward.toMatrix, exactC.backward_mul regular, one_mul,
      toMatrix_translate_mul_backward]
  apply Mat4.toMatrix_injective
  calc (k.inverse.compose s).forward.toMatrix
      = k.backward.toMatrix * s.forward.toMatrix := Mat4.toMatrix_mul _ _
    _ = c.forward.toMatrix * (translate p.neg).backward.toMatrix *
          ((translate q.neg).forward.toMatrix * t.forward.toMatrix) := by
        rw [exactK.backward_eq cancels, shape]
        exact congrArg _ (Mat4.toMatrix_mul _ _)
    _ = c.forward.toMatrix *
          ((translate (p.sub q)).forward.toMatrix * t.forward.toMatrix) := by
        rw [mul_assoc, ← mul_assoc (translate p.neg).backward.toMatrix,
          toMatrix_backward_translate_mul]
    _ = (c.compose ((translate (p.sub q)).compose t)).forward.toMatrix := by
        simp only [compose, Mat4.toMatrix_mul]

theorem forward_compose_translate_self (p : Vec3 ℝ) :
    (c.compose ((translate (p.sub p)).compose t)).forward = (c.compose t).forward := by
  have none : (translate (p.sub p)).forward = .identity :=
    Mat4.translation_sub_eq_identity_iff.2 rfl
  apply Mat4.toMatrix_injective
  simp only [compose, none, Mat4.toMatrix_mul, Mat4.toMatrix_identity, one_mul]

theorem forward_compose_translate_neg {p : Vec3 ℝ} (moved : c.forward = .translation p) :
    (c.compose ((translate p.neg).compose .identity)).forward = .identity := by
  apply Mat4.toMatrix_injective
  simp only [compose, moved, Mat4.toMatrix_mul, Transform.identity, Mat4.toMatrix_identity, mul_one]
  exact toMatrix_translate_mul_backward p

/-- Between two regular matrices a translation shows unless its ends are the same. -/
theorem forward_compose_translate_eq_iff {p q : Vec3 ℝ} (regularC : c.forward.determinant ≠ 0)
    (regularT : t.forward.determinant ≠ 0) :
    (c.compose ((translate (p.sub q)).compose t)).forward = (c.compose t).forward ↔ p = q := by
  have none : (translate (p.sub q)).forward.toMatrix = 1 ↔ p = q := by
    rw [← Mat4.toMatrix_identity, Mat4.toMatrix_injective.eq_iff]
    exact Mat4.translation_sub_eq_identity_iff
  rw [← none, ← Mat4.toMatrix_injective.eq_iff]
  simp only [compose, Mat4.toMatrix_mul]
  rw [(Mat4.isUnit_toMatrix_iff.2 regularC).mul_right_inj]
  exact (Mat4.isUnit_toMatrix_iff.2 regularT).mul_eq_right

end Transform

/-! ## Handles at a time -/

section Handles

variable {α : Type} [Scalar α]

/-- The handle for a time. -/
def TimedTransform.get (t : TimedTransform α) : TimeSlot → Handle α
  | .opening => t.opening
  | .closing => t.closing

theorem TimedTransform.StandsFor.get {t : TimedTransform α} {pair : TransformPair α}
    (stands : t.StandsFor pair) (slot : TimeSlot) :
    (t.get slot).transform.same (pair.get slot) = true := by
  cases slot with
  | opening => exact stands.1
  | closing => exact stands.2

theorem TransformPool.HoldsTimed.get {hashOf : TransformHash α} {p : TransformPool α}
    {t : TimedTransform α} (holds : p.HoldsTimed hashOf t) (slot : TimeSlot) :
    p.Holds hashOf (t.get slot) := by
  cases slot with
  | opening => exact holds.1
  | closing => exact holds.2

/-- The way from a shape to the camera at a time, as the scene has it. -/
def Camera.cameraFromShape (k : Camera α) (slot : TimeSlot) (s : StillShape α) : Transform α :=
  (k.renderFromCamera.get slot).transform.inverse.compose s.renderFromObject.transform

end Handles

/-- How a camera that has the view `v`, and stands at the points of `place`, has a still shape whose
current transform was `t`. The way from the shape to the camera is `t`, then the translation from
the place of the camera at the opening time to its place, then the view. So at the opening time it
is the view after `t`; and at the closing time it is that, for a `t` that can be taken back, exactly
if the camera is then where it was. -/
structure Camera.FollowedBy (k : Camera ℝ) (v : TransformPair ℝ) (place : TimeSlot → Vec3 ℝ)
    (s : StillShape ℝ) (t : Transform ℝ) : Prop where
  seen : ∀ slot, (k.cameraFromShape slot s).forward = ((v.get slot).compose
    ((Transform.translate ((place slot).sub (place .opening))).compose t)).forward
  opening : (k.cameraFromShape .opening s).forward = (v.opening.compose t).forward
  closing_iff : t.forward.determinant ≠ 0 →
    ((k.cameraFromShape .closing s).forward = (v.closing.compose t).forward ↔
      place .closing = place .opening)

namespace Builder

variable {setup : BuildSetup ℝ} {start : Builder ℝ} {ds : List (LocatedDirective ℝ)}
  {v : TransformPair ℝ} {place : TimeSlot → Vec3 ℝ}

/-- The scene's way from the camera to render space is built. -/
theorem exact_renderFromCamera (fresh : Fresh start) (pool : ∀ t ∈ start.pool.entries, t.Built)
    {k : Camera ℝ} (camera : (after setup start ds).scene.camera = some k) (slot : TimeSlot) :
    (k.renderFromCamera.get slot).transform.Exact := by
  have recorded : k.renderFromCamera ∈ (after setup start ds).timedTransforms := by
    simp [timedTransforms, camera]
  have holds := ((pooled_after fresh ds).timed _ recorded).get slot
  have stored := List.mem_of_getElem? (TransformPool.Finds.stored holds)
  exact ((stateBuilt_after fresh pool ds).pool _ stored).exact

theorem forward_renderFromCamera {b : Builder ℝ} {k : Camera ℝ} (viewed : Viewed b (some v))
    (camera : b.scene.camera = some k) {slot : TimeSlot} {p : Vec3 ℝ}
    (space : (renderSpaceOf (some v)).get slot = .translate p.neg) :
    (k.renderFromCamera.get slot).transform.forward =
      ((v.get slot).compose (Transform.translate p.neg).inverse).inverse.forward := by
  have stands := (viewed.camera k v camera rfl).1.get slot
  rw [renderFromCamera, TransformPair.get_map, space] at stands
  exact Mat4.same_iff.1 stands

/-- A still shape has the move to the render space of the opening time. -/
theorem forward_stillShape (fresh : Fresh start) {before : List (LocatedDirective ℝ)}
    (view : lastView setup start before = some v) {p : Vec3 ℝ}
    (space : (renderSpaceOf (some v)).get .opening = .translate p.neg) (name : String)
    (params : List (Param ℝ)) (loc : Location ℝ) :
    let s := (stillShape setup loc name params (after setup start before)).1
    s.renderFromObject.transform.forward =
      ((Transform.translate p.neg).compose
        (after setup start before).graphics.ctm.opening).forward := by
  have same := renderFromObject_stillShape setup (after setup start before) name params loc
  rw [renderFromObject_after fresh, view] at same
  rw [← space]
  exact Mat4.same_iff.1 same

/-- A shape that is recorded under the view of the scene's camera follows this camera. -/
theorem followedBy_stillShape (fresh : Fresh start) (pool : ∀ t ∈ start.pool.entries, t.Built)
    (view : lastView setup start ds = some v)
    (stands : ∀ slot, (v.get slot).StandsAt (place slot)) {k : Camera ℝ}
    (camera : (after setup start ds).scene.camera = some k)
    {before : List (LocatedDirective ℝ)} (here : lastView setup start before = some v)
    (name : String) (params : List (Param ℝ)) (loc : Location ℝ) :
    k.FollowedBy v place (stillShape setup loc name params (after setup start before)).1
      (after setup start before).graphics.ctm.opening := by
  have viewed : Viewed (after setup start ds) (some v) := view ▸ viewed_after fresh ds
  have built : v.Built := built_of_lastView fresh view
  have space (slot : TimeSlot) :
      (renderSpaceOf (some v)).get slot = .translate (place slot).neg :=
    get_renderSpaceOf_of_standsAt built slot (stands slot)
  -- the camera has the move of each time, and the shape that of the opening time
  have seen (slot : TimeSlot) := Transform.forward_inverse_compose (built slot).exact
    (stands slot).regular (exact_renderFromCamera fresh pool camera slot)
    (forward_renderFromCamera viewed camera (space slot))
    (forward_stillShape fresh here (space .opening) name params loc)
  refine ⟨seen, (seen .opening).trans (Transform.forward_compose_translate_self _),
    fun regular => ?_⟩
  rw [Camera.cameraFromShape, seen]
  exact Transform.forward_compose_translate_eq_iff (stands .closing).regular regular

/-- In exact arithmetic, after any directives in turn, failed or not. A Camera directive was
accepted, and all that were accepted came under views with a place at both times: the scene has a
camera, the last one. Every still shape of the scene has its own Shape directive in the run, which
was accepted and added it at its place, while the current transforms did not move. It is the shape
of that directive, and follows the camera with the current transform there. The still shapes of
objects, too, are those of accepted directives, and follow the camera likewise. -/
theorem still_shapes_follow_camera (setup : BuildSetup ℝ) (fresh : Fresh start)
    (pool : ∀ t ∈ start.pool.entries, t.Built) (ds : List (LocatedDirective ℝ))
    (view : lastView setup start ds = some v)
    (cameras : ∀ u ∈ views setup start ds, ∀ slot, ∃ p, (u.get slot).StandsAt p) :
    let b := after setup start ds
    ∃ k place, b.scene.camera = some k ∧ (∀ slot, (v.get slot).StandsAt (place slot)) ∧
      (∀ i s, b.scene.stillShapes[i]? = some s → ∃ before loc name params rest,
        let c := after setup start before
        ds = before ++ ⟨.shape name params, loc⟩ :: rest ∧
        Enters setup (·.scene.stillShapes) i c ⟨.shape name params, loc⟩ ∧
        c.graphics.ctm.moves = false ∧ s = (stillShape setup loc name params c).1 ∧
        k.FollowedBy v place s c.graphics.ctm.opening) ∧
      ∀ s ∈ b.stillShapes, ∃ before loc name params rest,
        let c := after setup start before
        ds = before ++ ⟨.shape name params, loc⟩ :: rest ∧
        accepts setup c ⟨.shape name params, loc⟩ = true ∧
        c.graphics.ctm.moves = false ∧ s = (stillShape setup loc name params c).1 ∧
        k.FollowedBy v place s c.graphics.ctm.opening := by
  intro b
  have viewed : Viewed b (some v) := view ▸ viewed_after fresh ds
  obtain ⟨k, camera⟩ := Option.isSome_iff_exists.1 viewed.present
  obtain ⟨place, stands⟩ := Classical.skolem.1 (cameras v (mem_views_of_lastView view))
  -- a shape is recorded in the world block, and the view stays what it was there
  have follows {before rest : List (LocatedDirective ℝ)} {name : String}
      {params : List (Param ℝ)} {loc : Location ℝ}
      (split : ds = before ++ ⟨.shape name params, loc⟩ :: rest)
      (accepted : accepts setup (after setup start before) ⟨.shape name params, loc⟩ = true) :
      k.FollowedBy v place (stillShape setup loc name params (after setup start before)).1
        (after setup start before).graphics.ctm.opening := by
    have world : (after setup start before).phase = .world :=
      (accepts_shape_iff setup name params loc).1 accepted
    have here : lastView setup start before = some v :=
      (lastView_of_split fresh world).symm.trans (split ▸ view)
    exact followedBy_stillShape fresh pool view stands camera here name params loc
  refine ⟨k, place, camera, stands, fun i s entry => ?_, fun s hs => ?_⟩
  · obtain ⟨before, loc, name, params, rest, split, enters, still, rfl⟩ :=
      exists_stillShape_entering fresh entry
    exact ⟨before, loc, name, params, rest, split, enters, still, rfl,
      follows split enters.accepted⟩
  · obtain ⟨c, loc, name, params, still, made⟩ := (sourced_after fresh ds).stillShapes s hs
    have accepted := made.accepted fresh (lookups_stillShape c name params loc)
    obtain ⟨⟨before, rest, split, rfl⟩, rfl, -⟩ := made
    exact ⟨before, loc, name, params, rest, split, accepted, still, rfl, follows split accepted⟩

/-- Control: a camera five units back, and a shape that is stretched. -/
theorem still_shapes_follow_camera_five_back :
    let setup : BuildSetup ℝ := ⟨standardHash, .absent⟩
    let start : Builder ℝ := initial .defaults
    let shape : LocatedDirective ℝ := ⟨.shape "sphere" [], .unknown⟩
    let before : List (LocatedDirective ℝ) :=
      [⟨.translate ⟨0, 0, 5⟩, .unknown⟩, ⟨.camera "perspective" [], .unknown⟩,
        ⟨.worldBegin, .unknown⟩, ⟨.scale ⟨2, 2, 2⟩, .unknown⟩]
    let back : Transform ℝ := .compose .identity (.translate ⟨0, 0, 5⟩)
    let stretched : Transform ℝ := .compose .identity (.scale ⟨2, 2, 2⟩)
    let b := after setup start (before ++ [shape])
    Fresh start ∧ (∀ t ∈ start.pool.entries, t.Built) ∧
      lastView setup start (before ++ [shape]) = some (.still back) ∧
      (∀ u ∈ views setup start (before ++ [shape]), ∀ slot, (u.get slot).StandsAt ⟨0, 0, -5⟩) ∧
      ∃ k s, b.scene.camera = some k ∧ b.scene.stillShapes = [s] ∧
        Enters setup (·.scene.stillShapes) 0 (after setup start before) shape ∧
        ∀ slot, (k.cameraFromShape slot s).forward = (back.compose stretched).forward := by
  intro setup start shape before back stretched b
  have fresh : Fresh start := fresh_initial _
  have pool : ∀ t ∈ start.pool.entries, t.Built := fun t absent => absurd absent List.not_mem_nil
  have view : lastView setup start (before ++ [shape]) = some (.still back) := rfl
  have moved : back.forward = .translation ⟨0, 0, 5⟩ := Mat4.identity_mul _
  have behind : back.StandsAt ⟨0, 0, -5⟩ := by
    simpa [Vec3.neg] using Transform.standsAt_of_translation moved
  have one : views setup start (before ++ [shape]) = [.still back] := rfl
  have cameras : ∀ u ∈ views setup start (before ++ [shape]), ∀ slot,
      (u.get slot).StandsAt ⟨0, 0, -5⟩ := by
    rw [one, List.forall_mem_singleton]
    rintro (_ | _) <;> exact behind
  obtain ⟨k, place, camera, stands, seen, -⟩ := still_shapes_follow_camera setup fresh pool _ view
    fun u hu slot => ⟨_, cameras u hu slot⟩
  have still : (after setup start before).graphics.ctm.moves = false :=
    congrArg not (Transform.same_refl stretched)
  have recorded : b.scene.stillShapes =
      [(stillShape setup .unknown "sphere" [] (after setup start before)).1] :=
    (receives_next_stillShape setup "sphere" [] .unknown rfl still).stillShapes
  obtain ⟨earlier, loc, name, params, rest, split, enters, -, -, follows⟩ :=
    seen 0 _ (by rw [recorded]; rfl)
  -- the only Shape directive is the last one
  obtain ⟨rfl, same⟩ : earlier = before ∧ [shape] = ⟨.shape name params, loc⟩ :: rest := by
    rcases List.eq_nil_or_concat rest with rfl | ⟨rest, last, rfl⟩
    · exact ⟨(List.append_inj_left' split rfl).symm, List.append_inj_right' split rfl⟩
    · rw [List.concat_eq_append, ← List.cons_append, ← List.append_assoc] at split
      have inside : ⟨.shape name params, loc⟩ ∈ before := by
        rw [List.append_inj_left' split rfl]
        simp
      exact absurd inside (by simp [before])
  obtain ⟨only, -⟩ := List.cons_eq_cons.1 same
  refine ⟨fresh, pool, view, cameras, k, _, camera, recorded, only ▸ enters, ?_⟩
  have regular : stretched.forward.determinant ≠ 0 := by
    simp [stretched, Transform.compose, Transform.identity, Transform.scale, Mat4.identity_mul,
      Mat4.determinant_scaling]
  have built : back.Built := .compose .identity (.translate _)
  have stays : place .closing = place .opening :=
    (stands .closing).unique (stands .opening) built.exact
  rintro (_ | _)
  · exact follows.opening
  · exact (follows.closing_iff regular).2 stays

/-- A camera that moves by one unit while the shutter is open, and a shape at the origin of the
world. At the closing time the camera sees the shape one unit away; in the scene the shape has come
along, to where the camera is. -/
theorem moving_camera_takes_shape_along :
    let setup : BuildSetup ℝ := ⟨standardHash, .absent⟩
    let start : Builder ℝ := initial .defaults
    let before : List (LocatedDirective ℝ) :=
      [⟨.activeTransform .endTime, .unknown⟩, ⟨.translate ⟨1, 0, 0⟩, .unknown⟩,
        ⟨.activeTransform .all, .unknown⟩, ⟨.camera "perspective" [], .unknown⟩,
        ⟨.worldBegin, .unknown⟩]
    let ds := before ++ [⟨.shape "sphere" [], .unknown⟩]
    let v : TransformPair ℝ := ⟨.identity, .compose .identity (.translate ⟨1, 0, 0⟩)⟩
    let b := after setup start ds
    lastView setup start ds = some v ∧
      (after setup start before).graphics.ctm = .identity ∧
      ∃ k s, b.scene.camera = some k ∧ b.scene.stillShapes = [s] ∧
        v.closing.forward = .translation ⟨1, 0, 0⟩ ∧
        (v.closing.compose .identity).forward = .translation ⟨1, 0, 0⟩ ∧
        (k.cameraFromShape .closing s).forward = .identity ∧
        (k.cameraFromShape .closing s).forward ≠ (v.closing.compose .identity).forward := by
  intro setup start before ds v b
  have fresh : Fresh start := fresh_initial _
  have pool : ∀ t ∈ start.pool.entries, t.Built := fun t absent => absurd absent List.not_mem_nil
  have view : lastView setup start ds = some v := rfl
  have moved : v.closing.forward = .translation ⟨1, 0, 0⟩ := Mat4.identity_mul _
  -- at the opening time the camera is at the origin, and then one unit away from it
  let place : TimeSlot → Vec3 ℝ
    | .opening => Vec3.neg ⟨0, 0, 0⟩
    | .closing => Vec3.neg ⟨1, 0, 0⟩
  have stands : ∀ slot, (v.get slot).StandsAt (place slot) := by
    rintro (_ | _)
    · exact Transform.standsAt_of_translation rfl
    · exact Transform.standsAt_of_translation moved
  have viewed : Viewed b (some v) := view ▸ viewed_after fresh ds
  obtain ⟨k, camera⟩ := Option.isSome_iff_exists.1 viewed.present
  have still : (after setup start before).graphics.ctm.moves = false :=
    congrArg not (Transform.same_refl .identity)
  have recorded : b.scene.stillShapes =
      [(stillShape setup .unknown "sphere" [] (after setup start before)).1] :=
    (receives_next_stillShape setup "sphere" [] .unknown rfl still).stillShapes
  have here : lastView setup start before = some v := rfl
  have follows := followedBy_stillShape fresh pool view stands camera here "sphere" [] .unknown
  have along : (k.cameraFromShape .closing
      (stillShape setup .unknown "sphere" [] (after setup start before)).1).forward =
        .identity := by
    have way : (place .closing).sub (place .opening) = Vec3.neg ⟨1, 0, 0⟩ := by
      simp [place, Vec3.sub, Vec3.neg]
    have seen := follows.seen .closing
    rw [way] at seen
    exact seen.trans (Transform.forward_compose_translate_neg moved)
  have apart : (v.closing.compose .identity).forward = .translation ⟨1, 0, 0⟩ :=
    (Mat4.mul_identity _).trans moved
  refine ⟨view, rfl, k, _, camera, recorded, moved, apart, along, ?_⟩
  rw [along, apart]
  simp [Mat4.translation, Mat4.identity, Mat4.diagonal, Vec3.withW]

/-- Every camera of a run must have a place, and not the last one only. Here the first camera
flattens the world, so that the way back from it divides by zero, and keeps a name; the camera of
the scene is at the origin. Under the transform with that name a shape is recorded, and the way from
it to the camera is not the view after the current transform. -/
theorem system_of_flat_camera_comes_back :
    let setup : BuildSetup Float := ⟨standardHash, .absent⟩
    let start : Builder Float := initial .defaults
    let before : List (LocatedDirective Float) :=
      [⟨.scale ⟨0, 1, 1⟩, .unknown⟩, ⟨.camera "perspective" [], .unknown⟩,
        ⟨.coordSysTransform "camera", .unknown⟩, ⟨.coordinateSystem "flat", .unknown⟩,
        ⟨.identity, .unknown⟩, ⟨.camera "perspective" [], .unknown⟩, ⟨.worldBegin, .unknown⟩,
        ⟨.coordSysTransform "flat", .unknown⟩]
    let ds := before ++ [⟨.shape "sphere" [], .unknown⟩, ⟨.worldEnd, .unknown⟩]
    let t := (after setup start before).graphics.ctm
    let b := after setup start ds
    (noticesOf setup start ds).isEmpty = true ∧ b.phase = .finished ∧
      (lastView setup start ds).isSome = true ∧ b.scene.camera.isSome = true ∧
      b.scene.stillShapes.length = 1 ∧
      ∀ v ∈ lastView setup start ds, v.opening.isIdentity = true ∧ v.closing.isIdentity = true ∧
        ∀ k ∈ b.scene.camera, ∀ s ∈ b.scene.stillShapes, ∀ slot ∈ [TimeSlot.opening, .closing],
          (k.cameraFromShape slot s).same ((v.get slot).compose (t.get slot)) = false := by
  decide +kernel

end Builder

end SceneScript
