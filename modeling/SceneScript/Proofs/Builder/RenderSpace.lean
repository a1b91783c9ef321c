import SceneScript.Proofs.Builder.Entries
import SceneScript.Proofs.Builder.Views

/-!
# One render space

The move from the world to render space is applied when an entity is recorded, and the scene keeps
what came of it. Lights and textures belong to the world block, where the view of the camera stands
still: they are in the render space of the finished scene. A medium may also be declared in the
options block. Then it is in the render space of the last camera before it, and a Camera directive
that follows leaves it there (`medium_before_camera_stays_behind`).

`entities_stand_in_render_space` says where every entity stands, and that all of them stand in the
render space of the scene's own camera unless a medium came before it.
-/

set_option autoImplicit false

namespace SceneScript

variable {α : Type} [Scalar α]

instance (t : TimedTransform α) (pair : TransformPair α) : Decidable (t.StandsFor pair) :=
  inferInstanceAs (Decidable (_ ∧ _))

namespace Builder

/-- Transforms to the world, moved on to render space under the view of a camera. -/
def inRenderSpace (view : Option (TransformPair α)) (toWorld : TransformPair α) :
    TransformPair α :=
  toWorld.map fun slot t => ((renderSpaceOf view).get slot).compose t

variable {setup : BuildSetup α} {start : Builder α} {d : LocatedDirective α}

/-- The view at a directive of the world is the last one of the run. -/
theorem lastView_of_split (fresh : Fresh start) {before rest : List (LocatedDirective α)}
    (world : (after setup start before).phase = .world) :
    lastView setup start (before ++ d :: rest) = lastView setup start before := by
  have reach : Reachable setup (after setup start before) := (Reachable.fresh fresh).after before
  rw [lastView_append, lastView_of_world reach (by simp [world]), Option.none_or]

variable [LawfulEquality α]

/-- The current transforms of a builder in a run, in the render space of that moment. -/
theorem renderFromObject_after (fresh : Fresh start) (before : List (LocatedDirective α)) :
    (after setup start before).renderFromObject =
      inRenderSpace (lastView setup start before) (after setup start before).graphics.ctm := by
  rw [renderFromObject, (viewed_after fresh before).renderFromWorld]
  rfl

/-- After any directives in turn, failed or not. The scene has a camera if a Camera directive was
accepted, and then it is the last one. Every light and every texture has its own directive in the
run, which was accepted and added it to the scene at its place. It is the entity of that directive,
and it stands for the current transforms at that directive, moved to the render space of this
camera. A medium has its own directive too. It stands for the current transforms there, moved to the
render space of the last camera until then; if no Camera directive was accepted from there on, this
is the camera of the scene. -/
theorem entities_stand_in_render_space (setup : BuildSetup α) (fresh : Fresh start)
    (ds : List (LocatedDirective α)) :
    let b := after setup start ds
    let view := lastView setup start ds
    b.scene.camera.isSome = view.isSome ∧
      (∀ k v, b.scene.camera = some k → view = some v → k.worldFromCamera.StandsFor v.inverse) ∧
      (∀ i l, b.scene.lights[i]? = some l → ∃ before loc name params rest,
        let c := after setup start before
        ds = before ++ ⟨.lightSource name params, loc⟩ :: rest ∧
        Enters setup (·.scene.lights) i c ⟨.lightSource name params, loc⟩ ∧
        l.entity = c.worldEntity .light name params loc ∧
        l.renderFromObject.StandsFor (inRenderSpace view c.graphics.ctm)) ∧
      (∀ kind i t, (b.scene.textures kind)[i]? = some t →
        ∃ before loc name word implementation params rest,
        let c := after setup start before
        ds = before ++ ⟨.texture name word implementation params, loc⟩ :: rest ∧
        Enters setup (·.scene.textures kind) i c ⟨.texture name word implementation params, loc⟩ ∧
        t.sceneName = name ∧ t.entity = c.worldEntity .texture implementation params loc ∧
        t.renderFromObject.StandsFor (inRenderSpace view c.graphics.ctm)) ∧
      (∀ i e, b.scene.media.entries[i]? = some e → ∃ before loc params rest,
        let c := after setup start before
        ds = before ++ ⟨.makeNamedMedium e.1 params, loc⟩ :: rest ∧
        Enters setup (·.scene.media.entries) i c ⟨.makeNamedMedium e.1 params, loc⟩ ∧
        e.2.entity = c.worldEntity .medium e.1 params loc ∧
        e.2.renderFromObject.StandsFor
          (inRenderSpace (lastView setup start before) c.graphics.ctm) ∧
        (lastView setup c (⟨.makeNamedMedium e.1 params, loc⟩ :: rest) = none →
          lastView setup start before = view)) := by
  intro b view
  have viewed : Viewed b view := viewed_after fresh ds
  refine ⟨viewed.present, fun k v made same => (viewed.camera k v made same).2,
    fun i l entry => ?_, fun kind i t entry => ?_, fun i e entry => ?_⟩
  · -- a light is added in the world block, where the view is the last one
    obtain ⟨before, loc, name, params, rest, rfl, enters, rfl⟩ := exists_light_entering fresh entry
    have world : (after setup start before).phase = .world :=
      phase_eq_world_of_placed (placed_of_accepts enters.accepted) rfl
    refine ⟨before, loc, name, params, rest, rfl, enters, rfl, ?_⟩
    simp only [view, lastView_of_split fresh world, ← renderFromObject_after fresh]
    exact standsFor_internedPair _ _
  · obtain ⟨before, loc, name, word, implementation, params, rest, rfl, enters, rfl⟩ :=
      exists_texture_entering fresh entry
    have world : (after setup start before).phase = .world :=
      phase_eq_world_of_placed (placed_of_accepts enters.accepted) rfl
    refine ⟨before, loc, name, word, implementation, params, rest, rfl, enters, rfl, rfl, ?_⟩
    simp only [view, lastView_of_split fresh world, ← renderFromObject_after fresh]
    exact standsFor_internedPair _ _
  · -- a medium may come before the last view, so the view is the one of that moment
    obtain ⟨before, loc, params, rest, rfl, enters, made⟩ := exists_medium_entering fresh entry
    refine ⟨before, loc, params, rest, rfl, enters, by rw [made]; rfl, ?_, fun last => ?_⟩
    · rw [made, ← renderFromObject_after fresh]
      exact standsFor_internedPair _ _
    · simp only [view, lastView_append, last, Option.none_or]

/-- Control: a camera five units back, and behind it a medium, a texture and a light, the medium
under the same transforms as the camera, and the light one unit to the right. -/
theorem entities_stand_in_render_space_medium_and_light :
    let setup : BuildSetup Float := ⟨standardHash, .absent⟩
    let start : Builder Float := initial .defaults
    let ds : List (LocatedDirective Float) :=
      [⟨.translate ⟨0, 0, 5⟩, .unknown⟩, ⟨.camera "perspective" [], .unknown⟩,
        ⟨.makeNamedMedium "fog" [], .unknown⟩, ⟨.worldBegin, .unknown⟩,
        ⟨.texture "gray" "float" "constant" [], .unknown⟩, ⟨.translate ⟨1, 0, 0⟩, .unknown⟩,
        ⟨.lightSource "point" [], .unknown⟩, ⟨.worldEnd, .unknown⟩]
    let b := after setup start ds
    let view : TransformPair Float := .still (.compose .identity (.translate ⟨0, 0, 5⟩))
    LawfulEquality Float ∧ Fresh start ∧ lastView setup start ds = some view ∧
      (∃ k, b.scene.camera = some k ∧ k.worldFromCamera.StandsFor view.inverse ∧
        k.worldFromCamera.StandsFor (.still (.translate ⟨0, 0, -5⟩))) ∧
      (∃ l before loc name params rest, b.scene.lights = [l] ∧
        ds = before ++ ⟨.lightSource name params, loc⟩ :: rest ∧
        Enters setup (·.scene.lights) 0 (after setup start before)
          ⟨.lightSource name params, loc⟩ ∧
        l.renderFromObject.StandsFor
          (inRenderSpace (some view) (after setup start before).graphics.ctm) ∧
        l.renderFromObject.StandsFor (.still (.translate ⟨1, 0, 5⟩))) ∧
      (∃ t before loc name word implementation params rest, b.scene.floatTextures = [t] ∧
        ds = before ++ ⟨.texture name word implementation params, loc⟩ :: rest ∧
        Enters setup (·.scene.floatTextures) 0 (after setup start before)
          ⟨.texture name word implementation params, loc⟩ ∧
        t.renderFromObject.StandsFor
          (inRenderSpace (some view) (after setup start before).graphics.ctm) ∧
        t.renderFromObject.StandsFor (.still (.translate ⟨0, 0, 5⟩))) ∧
      ∃ e before loc params rest, b.scene.media.entries = [e] ∧
        ds = before ++ ⟨.makeNamedMedium e.1 params, loc⟩ :: rest ∧
        Enters setup (·.scene.media.entries) 0 (after setup start before)
          ⟨.makeNamedMedium e.1 params, loc⟩ ∧
        e.2.renderFromObject.StandsFor
          (inRenderSpace (lastView setup start before) (after setup start before).graphics.ctm) ∧
        e.2.renderFromObject.StandsFor (.still (.translate ⟨0, 0, 10⟩)) := by
  intro setup start ds b view
  have fresh : Fresh start := fresh_initial _
  have seen : lastView setup start ds = some view := rfl
  obtain ⟨present, cameras, lights, textures, media⟩ :=
    entities_stand_in_render_space setup fresh ds
  rw [seen] at present cameras lights textures
  obtain ⟨k, camera⟩ := Option.isSome_iff_exists.1 present
  obtain ⟨l, light⟩ : ∃ l, b.scene.lights = [l] :=
    List.length_eq_one_iff.1 (by decide +kernel)
  obtain ⟨t, texture⟩ : ∃ t, b.scene.floatTextures = [t] :=
    List.length_eq_one_iff.1 (by decide +kernel)
  obtain ⟨e, medium⟩ : ∃ e, b.scene.media.entries = [e] :=
    List.length_eq_one_iff.1 (by decide +kernel)
  obtain ⟨before, loc, name, params, rest, split, enters, -, stands⟩ :=
    lights 0 l (by rw [light]; rfl)
  obtain ⟨front, origin, scene, word, implementation, own, back, parts, filed, -, -, applied⟩ :=
    textures .float 0 t (by rw [Scene.textures, texture]; rfl)
  obtain ⟨earlier, site, extra, later, cut, added, -, placed, -⟩ := media 0 e (by rw [medium]; rfl)
  -- where they all stand, computed
  obtain ⟨cameraThere, lightThere, textureThere, mediumThere⟩ :
      (∀ k ∈ b.scene.camera, k.worldFromCamera.StandsFor (.still (.translate ⟨0, 0, -5⟩))) ∧
      (∀ l ∈ b.scene.lights, l.renderFromObject.StandsFor (.still (.translate ⟨1, 0, 5⟩))) ∧
      (∀ t ∈ b.scene.floatTextures,
        t.renderFromObject.StandsFor (.still (.translate ⟨0, 0, 5⟩))) ∧
      ∀ e ∈ b.scene.media.entries,
        e.2.renderFromObject.StandsFor (.still (.translate ⟨0, 0, 10⟩)) := by
    decide +kernel
  exact ⟨inferInstance, fresh, seen,
    ⟨k, camera, cameras k view camera rfl, cameraThere k camera⟩,
    ⟨l, before, loc, name, params, rest, light, split, enters, stands,
      lightThere l (light ▸ List.mem_singleton_self l)⟩,
    ⟨t, front, origin, scene, word, implementation, own, back, texture, parts, filed, applied,
      textureThere t (texture ▸ List.mem_singleton_self t)⟩,
    ⟨e, earlier, site, extra, later, medium, cut, added, placed,
      mediumThere e (medium ▸ List.mem_singleton_self e)⟩⟩

/-- A medium that is declared before the camera does not stand in the render space of the scene.
Every directive of the run is accepted, without a notice. The medium stands at the origin of the
world, where the current transforms were the identity; the camera that follows is five units away,
and so is the medium from the place in which the scene has it. -/
theorem medium_before_camera_stays_behind :
    let setup : BuildSetup Float := ⟨standardHash, .absent⟩
    let start : Builder Float := initial .defaults
    let ds : List (LocatedDirective Float) :=
      [⟨.makeNamedMedium "fog" [], .unknown⟩, ⟨.translate ⟨0, 0, 5⟩, .unknown⟩,
        ⟨.camera "perspective" [], .unknown⟩, ⟨.worldBegin, .unknown⟩, ⟨.worldEnd, .unknown⟩]
    let b := after setup start ds
    (noticesOf setup start ds).isEmpty = true ∧ b.phase = .finished ∧
      b.scene.media.size = 1 ∧
      ∀ e ∈ b.scene.media.entries,
        ¬ e.2.renderFromObject.StandsFor
          (inRenderSpace (lastView setup start ds) start.graphics.ctm) := by
  decide +kernel

end Builder

end SceneScript
