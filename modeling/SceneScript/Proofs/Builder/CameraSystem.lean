import SceneScript.Proofs.Builder.Acceptance
import SceneScript.Proofs.Builder.HandleIdentity
import SceneScript.Proofs.Builder.Views
import SceneScript.Scalar.Double

/-!
# The coordinate system of the camera

Camera gives the name "camera" to the world as the camera sees it. An entity that is declared under
this system stands where the camera stands, and it must not do so up to rounding only: the camera's
transform is the inverse of a composition, the entity's is a composition with the inverse, and both
come to the same products of the same matrices (`Transform.inverse_compose_inverse`). So the entity
looks up what the camera has looked up before it, and gets the camera's own handles.

`Sees` says what the camera leaves behind: itself, its move to render space, its system under its
name, and its handles in the pool. Every directive keeps this but an accepted Camera, which puts a
new camera in place of the old one, and an accepted CoordinateSystem for the name "camera".
-/

set_option autoImplicit false

namespace SceneScript

variable {α : Type}

/-- Two timed transforms with the same handles. -/
def TimedTransform.SameHandles (t u : TimedTransform α) : Prop :=
  t.opening = u.opening ∧ t.closing = u.closing

variable [Scalar α]

/-- Turned around, a composition with an inverse is a composition with the other inverse, down to
the last bit. -/
theorem Transform.inverse_compose_inverse (a b : Transform α) :
    (a.compose b.inverse).inverse = b.compose a.inverse := rfl

namespace Builder

/-! ## The handles of a pair that was looked up -/

section Interned

variable {setup : BuildSetup α} {b : Builder α} {pair : TransformPair α} {t : TimedTransform α}

/-- Both transforms of a pair find the handles of a timed transform in a pool. -/
def FindsPair (setup : BuildSetup α) (p : TransformPool α) (pair : TransformPair α)
    (t : TimedTransform α) : Prop :=
  p.Finds setup.hashOf pair.opening t.opening ∧ p.Finds setup.hashOf pair.closing t.closing

theorem FindsPair.mono {p q : TransformPool α} (found : FindsPair setup p pair t)
    (grown : p.entries <+: q.entries) : FindsPair setup q pair t :=
  ⟨found.1.mono grown, found.2.mono grown⟩

/-- What was looked up is found afterwards. -/
theorem findsPair_internedPair [LawfulEquality α] (setup : BuildSetup α) (b : Builder α)
    (pair : TransformPair α) :
    FindsPair setup (internedPair setup b pair).2 pair (internedPair setup b pair).1 :=
  ⟨(TransformPool.finds_intern _ _ _).mono (TransformPool.entries_intern _ _ _),
    TransformPool.finds_intern _ _ _⟩

/-- What is found is what looking it up returns. -/
theorem sameHandles_internedPair (found : FindsPair setup b.pool pair t) :
    (internedPair setup b pair).1.SameHandles t := by
  have grown : b.pool.entries <+: (b.pool.intern setup.hashOf pair.opening).2.entries :=
    TransformPool.entries_intern _ _ _
  exact ⟨congrArg Prod.fst found.1.intern_eq, congrArg Prod.fst (found.2.mono grown).intern_eq⟩

end Interned

/-! ## The names of coordinate systems -/

section Names

omit [Scalar α]

variable (b : Builder α)

@[simp] theorem coordinateSystems_restore (kind : ScopeKind) :
    (b.restore kind).coordinateSystems = b.coordinateSystems := by
  cases kind <;> simp only [restore] <;> split <;> rfl

@[simp] theorem coordinateSystems_finishObject :
    b.finishObject.coordinateSystems = b.coordinateSystems := by
  unfold finishObject
  split <;> rfl

@[simp] theorem coordinateSystems_leave (rest : List (Scope α)) (kind : ScopeKind) :
    (b.leave rest kind).coordinateSystems = b.coordinateSystems := by
  unfold leave
  split <;> simp

@[simp] theorem coordinateSystems_restoreAll (scopes : List (Scope α)) :
    (b.restoreAll scopes).coordinateSystems = b.coordinateSystems := by
  induction scopes generalizing b with
  | nil => rfl
  | cons s rest ih => exact (ih (b.restore s.kind)).trans (coordinateSystems_restore b s.kind)

@[simp] theorem coordinateSystems_endWorld :
    b.endWorld.coordinateSystems = b.coordinateSystems :=
  (coordinateSystems_finishObject _).trans (coordinateSystems_restoreAll _ _)

@[simp] theorem coordinateSystems_addStillShape (s : StillShape α) :
    (b.addStillShape s).coordinateSystems = b.coordinateSystems := by
  unfold addStillShape
  split <;> rfl

@[simp] theorem coordinateSystems_addMovingShape (s : MovingShape α) :
    (b.addMovingShape s).coordinateSystems = b.coordinateSystems := by
  unfold addMovingShape
  split <;> rfl

end Names

variable {setup : BuildSetup α} {b : Builder α} {d : LocatedDirective α}

theorem accepts_coordinateSystem {name : String} {loc : Location α}
    (placed : misplaced? b.phase (.coordinateSystem name : Directive α) = none) :
    accepts setup b ⟨.coordinateSystem name, loc⟩ = true := by
  unfold accepts
  rw [run_interpretAt_of_placed placed]
  rfl

/-- A name stands for what it stood for, unless a directive is carried out that gives it to
something else. -/
theorem find?_coordinateSystems_next (reach : Reachable setup b) {name : String}
    (camera : ¬ (d.directive.isCamera = true ∧ b.phase = .options))
    (world : name ≠ "world")
    (other : d.directive = .coordinateSystem name → accepts setup b d = false) :
    (next setup b d).coordinateSystems.find? name = b.coordinateSystems.find? name := by
  have change := change_next reach d
  generalize next setup b d = b' at change ⊢
  cases change with
  | worldBegin _ _ => rw [Registry.find?_insert, if_neg world]
  | leave rest kind => rw [coordinateSystems_leave]
  | endWorld => rw [coordinateSystems_endWorld]
  | effect placed effect =>
    obtain ⟨directive, loc⟩ := d
    cases effect with
    | @coordinateSystem given =>
      have differs : name ≠ given := by
        rintro rfl
        rw [accepts_coordinateSystem placed] at other
        exact Bool.false_ne_true (other rfl).symm
      rw [Registry.find?_insert, if_neg differs]
    | camera => exact absurd ⟨rfl, phase_eq_options_of_placed placed rfl⟩ camera
    | stillShape _ => rw [coordinateSystems_addStillShape]; rfl
    | movingShape _ => rw [coordinateSystems_addMovingShape]; rfl
    | _ => rfl
  | _ => rfl

/-! ## What a camera leaves behind -/

/-- The builder has the camera `k` with the view `v`. -/
structure Sees (setup : BuildSetup α) (b : Builder α) (v : TransformPair α) (k : Camera α) :
    Prop where
  camera : b.scene.camera = some k
  renderFromWorld : b.renderFromWorld = renderSpaceOf (some v)
  named : b.coordinateSystems.find? "camera" = some v.inverse
  pooled : FindsPair setup b.pool (renderFromCamera v (renderSpaceOf (some v))) k.renderFromCamera

/-- An accepted Camera directive sets up its camera. -/
theorem sees_next_camera [LawfulEquality α] {name : String} {params : List (Param α)}
    {loc : Location α} (options : b.phase = .options) :
    Sees setup (next setup b ⟨.camera name params, loc⟩) b.graphics.ctm
      (placedCamera setup loc name params b).1 := by
  have left : next setup b ⟨.camera name params, loc⟩ = _ :=
    congrArg Outcome.state ((run_interpretAt_camera setup name params loc options).trans
      (run_performCamera setup loc name params))
  rw [left]
  refine ⟨rfl, rfl, ?_, ?_⟩
  · rw [Registry.find?_insert, if_pos rfl]
  · -- the transforms to the world are looked up behind those to render space
    have toRender := findsPair_internedPair setup b
      (renderFromCamera b.graphics.ctm b.renderFromWorldHere)
    exact toRender.mono (entries_internedPair (b.withPool _) b.graphics.ctm.inverse)

namespace Sees

variable {v : TransformPair α} {k : Camera α}

/-- Any other directive keeps the camera, unless it gives the name "camera" away. -/
theorem next (sees : Sees setup b v k) (reach : Reachable setup b)
    (camera : ¬ (d.directive.isCamera = true ∧ b.phase = .options))
    (other : d.directive = .coordinateSystem "camera" → accepts setup b d = false) :
    Sees setup (next setup b d) v k := by
  have named := find?_coordinateSystems_next reach camera (by decide) other
  have grown := entries_pool_next reach d
  obtain ⟨renderFromWorld, present⟩ := view_next_of_not_camera reach camera
  exact ⟨present.trans sees.camera, renderFromWorld.trans sees.renderFromWorld,
    named.trans sees.named, sees.pooled.mono grown⟩

/-- Directives in turn keep a camera, the same one or a newer one, as long as none of them gives the
name "camera" away. -/
theorem exists_after [LawfulEquality α] (sees : Sees setup b v k) (reach : Reachable setup b)
    (ds : List (LocatedDirective α))
    (kept : ∀ d c, Given setup b ds d c → d.directive = .coordinateSystem "camera" →
      accepts setup c d = false) :
    ∃ v k, Sees setup (after setup b ds) v k := by
  induction ds generalizing b v k with
  | nil => exact ⟨v, k, sees⟩
  | cons d rest ih =>
    have first : Given setup b (d :: rest) d b := ⟨[], rest, rfl, rfl⟩
    have others : ∀ e c, Given setup (Builder.next setup b d) rest e c →
        e.directive = .coordinateSystem "camera" → accepts setup c e = false := by
      rintro e c ⟨before, later, rfl, rfl⟩
      exact kept e _ ⟨d :: before, later, rfl, rfl⟩
    by_cases camera : d.directive.isCamera = true ∧ b.phase = .options
    · -- a newer camera takes the place of the old one, and its name
      obtain ⟨directive, loc⟩ := d
      obtain ⟨isCamera, options⟩ := camera
      obtain ⟨name, params, rfl⟩ := Directive.isCamera_iff.1 isCamera
      exact ih (sees_next_camera options) (reach.next _) others
    · exact ih (sees.next reach camera (kept d b first)) (reach.next _) others

/-- Under the system of the camera, the current transforms lead to render space as the camera's
do. -/
theorem renderFromObject (sees : Sees setup b v k) (here : b.graphics.ctm = v.inverse) :
    b.renderFromObject = renderFromCamera v (renderSpaceOf (some v)) := by
  ext slot
  simp only [Builder.renderFromObject, renderFromCamera, here, sees.renderFromWorld,
    TransformPair.get_map, TransformPair.get_inverse, Transform.inverse_compose_inverse]

/-- What is looked up under the system of the camera has the handles of the camera. -/
theorem sameHandles (sees : Sees setup b v k) (here : b.graphics.ctm = v.inverse) :
    (internedPair setup b b.renderFromObject).1.SameHandles k.renderFromCamera := by
  rw [sees.renderFromObject here]
  exact sameHandles_internedPair sees.pooled

/-- CoordSysTransform puts the system of the camera in force. -/
theorem ctm_next_coordSysTransform (sees : Sees setup b v k) (place : Location α)
    (going : b.phase ≠ .finished) :
    (Builder.next setup b ⟨.coordSysTransform "camera", place⟩).graphics.ctm = v.inverse := by
  have placed : misplaced? b.phase (.coordSysTransform "camera" : Directive α) = none := by
    cases phase : b.phase with
    | finished => exact absurd phase going
    | options => rfl
    | world => rfl
  rw [next_of_placed placed]
  simp only [perform, performCoordSysTransform, Action.run_get_bind, sees.named]
  rfl

end Sees

/-! ## What is declared under the system of the camera -/

section Declared

theorem next_lightSource_of_accepts {name : String} {params : List (Param α)} {loc : Location α}
    (accepted : accepts setup b ⟨.lightSource name params, loc⟩ = true) :
    b.phase = .world ∧ (next setup b ⟨.lightSource name params, loc⟩).scene.lights =
      b.scene.lights ++ [(placedLight setup loc name params b).1] := by
  have placed := placed_of_accepts accepted
  refine ⟨phase_eq_world_of_placed placed rfl, ?_⟩
  rw [next_of_placed placed]
  rfl

theorem next_texture_of_accepts {name word implementation : String} {params : List (Param α)}
    {loc : Location α}
    (accepted : accepts setup b ⟨.texture name word implementation params, loc⟩ = true) :
    b.phase = .world ∧ ∃ kind, TextureKind.ofName? word = some kind ∧
      (next setup b ⟨.texture name word implementation params, loc⟩).scene.textures kind =
        b.scene.textures kind ++ [(placedTexture setup loc name params implementation b).1] := by
  have placed := placed_of_accepts accepted
  have done := finished_of_accepts accepted
  have effect := effect_of_accepts accepted rfl
  refine ⟨phase_eq_world_of_placed placed rfl, ?_⟩
  unfold next
  generalize (interpretAt setup _).run b = o at done effect ⊢
  cases effect with
  | ignored void => exact absurd void Bool.false_ne_true
  | refused _ _ => exact absurd done (by simp)
  | transformed does => exact absurd does (by simp [Directive.transformation?])
  | image part => exact absurd part (by simp [Directive.imagePart?])
  | @texture _ _ _ _ kind known _ =>
    refine ⟨kind, known, ?_⟩
    simp [Scene.textures_addTexture]

/-- An accepted MakeNamedMedium directive records its medium, with a warning if there is cause for
one. -/
theorem run_interpretAt_makeNamedMedium_of_accepts {name : String} {params : List (Param α)}
    {loc : Location α} (accepted : accepts setup b ⟨.makeNamedMedium name params, loc⟩ = true) :
    (interpretAt setup ⟨.makeNamedMedium name params, loc⟩).run b =
      ⟨.ok (),
        { b with
          pool := (placedMedium setup loc name params b).2
          scene := { b.scene with
            media := b.scene.media.insert name (placedMedium setup loc name params b).1 } },
        mediumWarnings loc b⟩ := by
  have done := finished_of_accepts accepted
  have effect := effect_of_accepts accepted rfl
  generalize (interpretAt setup _).run b = o at done effect ⊢
  cases effect with
  | ignored void => exact absurd void Bool.false_ne_true
  | refused _ _ => exact absurd done (by simp)
  | transformed does => exact absurd does (by simp [Directive.transformation?])
  | image part => exact absurd part (by simp [Directive.imagePart?])
  | makeNamedMedium _ => rfl

theorem next_makeNamedMedium_of_accepts {name : String} {params : List (Param α)}
    {loc : Location α} (accepted : accepts setup b ⟨.makeNamedMedium name params, loc⟩ = true) :
    b.phase ≠ .finished ∧
      (next setup b ⟨.makeNamedMedium name params, loc⟩).scene.media.find? name =
        some (placedMedium setup loc name params b).1 := by
  refine ⟨phase_ne_finished_of_placed (placed_of_accepts accepted), ?_⟩
  unfold next
  rw [run_interpretAt_makeNamedMedium_of_accepts accepted]
  simp [Registry.find?_insert]

namespace Sees

variable {v : TransformPair α} {k : Camera α}

/-- A light that is accepted under the system of the camera has the handles of the camera, and the
camera stays. -/
theorem light (sees : Sees setup b v k) (reach : Reachable setup b)
    (here : b.graphics.ctm = v.inverse) {name : String} {params : List (Param α)}
    {loc : Location α} (accepted : accepts setup b ⟨.lightSource name params, loc⟩ = true)
    (rest : List (LocatedDirective α)) :
    let final := after setup b (⟨.lightSource name params, loc⟩ :: rest)
    final.scene.camera = some k ∧
      ∃ l, final.scene.lights[b.scene.lights.length]? = some l ∧
        l.entity = b.worldEntity .light name params loc ∧
        l.renderFromObject.SameHandles k.renderFromCamera := by
  intro final
  obtain ⟨world, lights⟩ := next_lightSource_of_accepts accepted
  have still : lastView setup b (⟨.lightSource name params, loc⟩ :: rest) = none :=
    lastView_of_world reach (by simp [world]) _
  obtain ⟨more, grown⟩ := (grows_after (reach.next _) rest).lights
  refine ⟨(camera_after_of_lastView reach still).trans sees.camera,
    (placedLight setup loc name params b).1, ?_, rfl, sees.sameHandles here⟩
  -- the list has the light at its end, and only grows afterwards
  change (after setup (Builder.next setup b _) rest).scene.lights[_]? = _
  rw [← grown, lights]
  simp

/-- So has a texture. -/
theorem texture (sees : Sees setup b v k) (reach : Reachable setup b)
    (here : b.graphics.ctm = v.inverse) {name word implementation : String}
    {params : List (Param α)} {loc : Location α}
    (accepted : accepts setup b ⟨.texture name word implementation params, loc⟩ = true)
    (rest : List (LocatedDirective α)) :
    let final := after setup b (⟨.texture name word implementation params, loc⟩ :: rest)
    final.scene.camera = some k ∧
      ∃ kind t, TextureKind.ofName? word = some kind ∧
        (final.scene.textures kind)[(b.scene.textures kind).length]? = some t ∧
        t.sceneName = name ∧ t.entity = b.worldEntity .texture implementation params loc ∧
        t.renderFromObject.SameHandles k.renderFromCamera := by
  intro final
  obtain ⟨world, kind, known, textures⟩ := next_texture_of_accepts accepted
  have still : lastView setup b (⟨.texture name word implementation params, loc⟩ :: rest) = none :=
    lastView_of_world reach (by simp [world]) _
  obtain ⟨more, grown⟩ := (grows_after (reach.next _) rest).textures kind
  refine ⟨(camera_after_of_lastView reach still).trans sees.camera, kind,
    (placedTexture setup loc name params implementation b).1, known, ?_, rfl, rfl,
    sees.sameHandles here⟩
  change ((after setup (Builder.next setup b _) rest).scene.textures kind)[_]? = _
  rw [← grown, textures]
  simp

/-- So has a medium. It may be declared in the options block, where another Camera directive may
still follow. -/
theorem medium (sees : Sees setup b v k) (reach : Reachable setup b)
    (here : b.graphics.ctm = v.inverse) {name : String} {params : List (Param α)}
    {loc : Location α} (accepted : accepts setup b ⟨.makeNamedMedium name params, loc⟩ = true)
    (rest : List (LocatedDirective α)) :
    let final := after setup b (⟨.makeNamedMedium name params, loc⟩ :: rest)
    (lastView setup b (⟨.makeNamedMedium name params, loc⟩ :: rest) = none →
        final.scene.camera = some k) ∧
      ∃ m, final.scene.media.find? name = some m ∧
        m.entity = b.worldEntity .medium name params loc ∧
        m.renderFromObject.SameHandles k.renderFromCamera := by
  intro final
  obtain ⟨-, found⟩ := next_makeNamedMedium_of_accepts accepted
  exact ⟨fun still => (camera_after_of_lastView reach still).trans sees.camera,
    (placedMedium setup loc name params b).1,
    Registry.find?_of_prefix (grows_after (reach.next _) rest).media found, rfl,
    sees.sameHandles here⟩

end Sees

end Declared

/-! ## Runs with a camera -/

section Runs

variable [LawfulEquality α]

/-- Behind an accepted Camera directive, let any directives follow, failed or not, none of which is
an accepted CoordinateSystem for the name "camera", and then CoordSysTransform "camera". A light, a
texture or a medium that is accepted next has, at both times, the very handles that the camera has
for its own transform to render space, and keeps them however the run goes on. This is the camera of
the scene from then on, unless another Camera directive is accepted behind a medium. -/
theorem camera_system_has_camera_handles (reach : Reachable setup b) {name : String}
    {params : List (Param α)} {loc : Location α}
    (accepted : accepts setup b ⟨.camera name params, loc⟩ = true)
    {between : List (LocatedDirective α)}
    (kept : ∀ d c, Given setup (next setup b ⟨.camera name params, loc⟩) between d c →
      d.directive = .coordinateSystem "camera" → accepts setup c d = false)
    (place : Location α) :
    let c := after setup b
      (⟨.camera name params, loc⟩ :: between ++ [⟨.coordSysTransform "camera", place⟩])
    ∃ k, c.scene.camera = some k ∧
      (∀ light own site, accepts setup c ⟨.lightSource light own, site⟩ = true → ∀ rest,
        let final := after setup c (⟨.lightSource light own, site⟩ :: rest)
        final.scene.camera = some k ∧
          ∃ l, final.scene.lights[c.scene.lights.length]? = some l ∧
            l.entity = c.worldEntity .light light own site ∧
            l.renderFromObject.SameHandles k.renderFromCamera) ∧
      (∀ texture word implementation own site,
        accepts setup c ⟨.texture texture word implementation own, site⟩ = true → ∀ rest,
        let final := after setup c (⟨.texture texture word implementation own, site⟩ :: rest)
        final.scene.camera = some k ∧
          ∃ kind t, TextureKind.ofName? word = some kind ∧
            (final.scene.textures kind)[(c.scene.textures kind).length]? = some t ∧
            t.sceneName = texture ∧ t.entity = c.worldEntity .texture implementation own site ∧
            t.renderFromObject.SameHandles k.renderFromCamera) ∧
      (∀ medium own site, accepts setup c ⟨.makeNamedMedium medium own, site⟩ = true → ∀ rest,
        let final := after setup c (⟨.makeNamedMedium medium own, site⟩ :: rest)
        (lastView setup c (⟨.makeNamedMedium medium own, site⟩ :: rest) = none →
            final.scene.camera = some k) ∧
          ∃ m, final.scene.media.find? medium = some m ∧
            m.entity = c.worldEntity .medium medium own site ∧
            m.renderFromObject.SameHandles k.renderFromCamera) := by
  intro c
  have options : b.phase = .options := (accepts_camera_iff setup name params loc).1 accepted
  have reachCamera := reach.next ⟨.camera name params, loc⟩
  have reachBetween := reachCamera.after between
  obtain ⟨v, k, sees⟩ := (sees_next_camera options).exists_after reachCamera between kept
  have split : c = next setup (after setup (next setup b ⟨.camera name params, loc⟩) between)
      ⟨.coordSysTransform "camera", place⟩ := by
    simp only [c, after_append, after_cons, after_nil]
  have reachHere : Reachable setup c := split ▸ reachBetween.next _
  have here : Sees setup c v k := by
    rw [split]
    exact sees.next reachBetween (by simp [Directive.isCamera]) (by simp)
  -- an entity is accepted before the end of the world only, and so CoordSysTransform was
  have ctm : ∀ d, accepts setup c d = true → c.graphics.ctm = v.inverse := by
    intro d fine
    have going := phase_ne_finished_of_placed (placed_of_accepts fine)
    rw [split] at going ⊢
    refine sees.ctm_next_coordSysTransform place fun finished => going ?_
    rw [next_of_finished finished, finished]
  exact ⟨k, here.camera,
    fun light own site fine => here.light reachHere (ctm _ fine) fine,
    fun texture word implementation own site fine => here.texture reachHere (ctm _ fine) fine,
    fun medium own site fine => here.medium reachHere (ctm _ fine) fine⟩

/-- Control: a camera that moves, by tenths. In an open scope, with one slot active, and under other
transforms in between, a light has the two different handles of the camera. -/
theorem camera_system_has_camera_handles_moving_camera :
    let setup : BuildSetup Float := ⟨standardHash, .absent⟩
    let b := after setup (initial .defaults)
      [⟨.translate ⟨0.1, 0.2, 5⟩, .unknown⟩, ⟨.activeTransform .endTime, .unknown⟩,
        ⟨.scale ⟨3, 3, 3⟩, .unknown⟩, ⟨.translate ⟨0.7, 0, 0⟩, .unknown⟩]
    let camera : LocatedDirective Float := ⟨.camera "perspective" [], .unknown⟩
    let between : List (LocatedDirective Float) :=
      [⟨.worldBegin, .unknown⟩, ⟨.attributeBegin, .unknown⟩, ⟨.translate ⟨1, 2, 3⟩, .unknown⟩,
        ⟨.coordinateSystem "tripod", .unknown⟩, ⟨.activeTransform .startTime, .unknown⟩]
    let c := after setup b (camera :: between ++ [⟨.coordSysTransform "camera", .unknown⟩])
    let light : LocatedDirective Float := ⟨.lightSource "point" [], .unknown⟩
    LawfulEquality Float ∧ Reachable setup b ∧ accepts setup b camera = true ∧
      (∀ d e, Given setup (next setup b camera) between d e →
        d.directive = .coordinateSystem "camera" → accepts setup e d = false) ∧
      accepts setup c light = true ∧
      (∃ k, c.scene.camera = some k ∧ ∃ l,
        (after setup c [light]).scene.lights[c.scene.lights.length]? = some l ∧
          l.renderFromObject.SameHandles k.renderFromCamera) ∧
      (after setup c [light]).scene.lights.map
        (fun l => (l.renderFromObject.opening.slot, l.renderFromObject.closing.slot)) =
          [(0, 1)] := by
  intro setup b camera between c light
  have reach : Reachable setup b := (Reachable.fresh (fresh_initial _)).after _
  have accepted : accepts setup b camera = true := by decide +kernel
  have kept : ∀ d e, Given setup (next setup b camera) between d e →
      d.directive = .coordinateSystem "camera" → accepts setup e d = false := by
    rintro d e ⟨before, rest, split, -⟩ names
    have mem : d ∈ between := split ▸ List.mem_append_right before List.mem_cons_self
    simp only [between, List.mem_cons, List.not_mem_nil, or_false] at mem
    rcases mem with rfl | rfl | rfl | rfl | rfl <;> simp at names
  have fine : accepts setup c light = true := by decide +kernel
  have slots : (after setup c [light]).scene.lights.map
      (fun l => (l.renderFromObject.opening.slot, l.renderFromObject.closing.slot)) = [(0, 1)] := by
    decide +kernel
  have split : c = after setup b (camera :: between ++ [⟨.coordSysTransform "camera", .unknown⟩]) :=
    rfl
  -- from here on it does not matter what the builders look like
  clear_value c b
  obtain ⟨k, present, lights, -⟩ :=
    camera_system_has_camera_handles reach accepted kept .unknown
  rw [← split] at present lights
  obtain ⟨-, l, last, -, same⟩ := lights "point" [] .unknown fine []
  exact ⟨inferInstance, reach, accepted, kept, fine, ⟨k, present, l, last, same⟩, slots⟩

end Runs

end Builder

end SceneScript
