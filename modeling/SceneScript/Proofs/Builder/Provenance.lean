import SceneScript.Proofs.Builder.Placing
import SceneScript.Proofs.Builder.ReferentialIntegrity

/-!
# Where entities come from

Every entity in a scene comes from one directive of the run, and it is what that directive makes of
the builder that it was given to. `Given` says when in a run this was, and `Sourced` collects what
it means for each sort of entity with a transform; `sourced_after` shows it by induction on the run
from its end, since the last directive adds one entity or none.

With it, what holds of an entity at the moment in which it is declared need only be carried from
there to the end of the run.
-/

set_option autoImplicit false

namespace SceneScript.Builder

variable {α : Type}

/-! ## Shapes of all objects -/

/-- All shapes that stand still, in objects or not. -/
def stillShapes (b : Builder α) : List (StillShape α) :=
  b.scene.stillShapes ++ b.definitions.flatMap (·.stillShapes)

/-- All shapes that move, in objects or not. -/
def movingShapes (b : Builder α) : List (MovingShape α) :=
  b.scene.movingShapes ++ b.definitions.flatMap (·.movingShapes)

section Shapes

variable {b : Builder α}

theorem stillShapes_finishObject (intact : Intact b) :
    b.finishObject.stillShapes = b.stillShapes := by
  have scene : b.finishObject.scene.stillShapes = b.scene.stillShapes := by
    cases opened : b.openObject <;> simp [finishObject, opened]
  rw [stillShapes, stillShapes, definitions_finishObject intact.openObject, scene]

theorem movingShapes_finishObject (intact : Intact b) :
    b.finishObject.movingShapes = b.movingShapes := by
  have scene : b.finishObject.scene.movingShapes = b.scene.movingShapes := by
    cases opened : b.openObject <;> simp [finishObject, opened]
  rw [movingShapes, movingShapes, definitions_finishObject intact.openObject, scene]

theorem mem_stillShapes_addStillShape {s t : StillShape α}
    (mem : t ∈ (b.addStillShape s).stillShapes) : t ∈ b.stillShapes ∨ t = s := by
  cases opened : b.openObject with
  | none =>
    rw [addStillShape_of_none opened] at mem
    simp only [stillShapes, definitions, List.mem_append, List.mem_singleton] at mem ⊢
    tauto
  | some o =>
    rw [addStillShape_of_some opened] at mem
    simp only [stillShapes, definitions, opened, Option.toList_some, List.flatMap_append,
      List.flatMap_singleton, List.mem_append, List.mem_singleton] at mem ⊢
    tauto

theorem movingShapes_addStillShape (s : StillShape α) :
    (b.addStillShape s).movingShapes = b.movingShapes := by
  cases opened : b.openObject with
  | none => rw [addStillShape_of_none opened]; rfl
  | some o => simp [addStillShape_of_some opened, movingShapes, definitions, opened]

theorem mem_movingShapes_addMovingShape {s t : MovingShape α}
    (mem : t ∈ (b.addMovingShape s).movingShapes) : t ∈ b.movingShapes ∨ t = s := by
  cases opened : b.openObject with
  | none =>
    rw [addMovingShape_of_none opened] at mem
    simp only [movingShapes, definitions, List.mem_append, List.mem_singleton] at mem ⊢
    tauto
  | some o =>
    rw [addMovingShape_of_some opened] at mem
    simp only [movingShapes, definitions, opened, Option.toList_some, List.flatMap_append,
      List.flatMap_singleton, List.mem_append, List.mem_singleton] at mem ⊢
    tauto

theorem stillShapes_addMovingShape (s : MovingShape α) :
    (b.addMovingShape s).stillShapes = b.stillShapes := by
  cases opened : b.openObject with
  | none => rw [addMovingShape_of_none opened]; rfl
  | some o => simp [addMovingShape_of_some opened, stillShapes, definitions, opened]

end Shapes

variable [Scalar α]

/-! ## Directives of a run -/

section Given

/-- In the run of `ds` from `start`, the directive `d` is given to the builder `b`. -/
def Given (setup : BuildSetup α) (start : Builder α) (ds : List (LocatedDirective α))
    (d : LocatedDirective α) (b : Builder α) : Prop :=
  ∃ before rest, ds = before ++ d :: rest ∧ b = after setup start before

variable {setup : BuildSetup α} {start b : Builder α} {ds : List (LocatedDirective α)}
  {d : LocatedDirective α}

theorem Given.last (ds : List (LocatedDirective α)) (d : LocatedDirective α) :
    Given setup start (ds ++ [d]) d (after setup start ds) :=
  ⟨ds, [], rfl, rfl⟩

theorem Given.concat (given : Given setup start ds d b) (e : LocatedDirective α) :
    Given setup start (ds ++ [e]) d b := by
  obtain ⟨before, rest, rfl, rfl⟩ := given
  exact ⟨before, rest ++ [e], by simp, rfl⟩

theorem Given.reachable (given : Given setup start ds d b) (reach : Reachable setup start) :
    Reachable setup b := by
  obtain ⟨before, rest, -, rfl⟩ := given
  exact reach.after before

/-- What the directive left is where the rest of the run started. -/
theorem Given.exists_after (given : Given setup start ds d b) :
    ∃ rest, after setup start ds = after setup (next setup b d) rest := by
  obtain ⟨before, rest, rfl, rfl⟩ := given
  exact ⟨rest, by simp⟩

end Given

/-- In the run of `ds` from `start`, `thing` is what the directive `d` made of the builder `b`, and
`pool` is the pool that this left. -/
structure Made {β : Type} (setup : BuildSetup α) (start : Builder α)
    (ds : List (LocatedDirective α)) (d : LocatedDirective α) (b : Builder α) (thing : β)
    (made : β × TransformPool α) : Prop where
  given : Given setup start ds d b
  thing : thing = made.1
  pool : (next setup b d).pool = made.2

theorem Made.concat {β : Type} {setup : BuildSetup α} {start b : Builder α}
    {ds : List (LocatedDirective α)} {d : LocatedDirective α} {thing : β}
    {made : β × TransformPool α} (m : Made setup start ds d b thing made)
    (e : LocatedDirective α) : Made setup start (ds ++ [e]) d b thing made :=
  ⟨m.given.concat e, m.thing, m.pool⟩

/-! ## What looks something up -/

section Lookups

variable {setup : BuildSetup α}

theorem lookups_stillShape (b : Builder α) (name : String) (params : List (Param α))
    (loc : Location α) : b.pool.lookups < (stillShape setup loc name params b).2.lookups := by
  simp only [stillShape, TransformPool.lookups_intern]
  omega

end Lookups

/-! ## Entities of a run -/

/-- The directive of a run that made a camera. -/
def FromCamera (setup : BuildSetup α) (start : Builder α) (ds : List (LocatedDirective α))
    (k : Camera α) : Prop :=
  ∃ b loc name params, b.phase = .options ∧
    Made setup start ds ⟨.camera name params, loc⟩ b k (placedCamera setup loc name params b)

/-- The directive of a run that made a shape that stands still. -/
def FromStillShape (setup : BuildSetup α) (start : Builder α) (ds : List (LocatedDirective α))
    (s : StillShape α) : Prop :=
  ∃ b loc name params, b.graphics.ctm.moves = false ∧
    Made setup start ds ⟨.shape name params, loc⟩ b s (stillShape setup loc name params b)

/-- The directive of a run that made a shape that moves. -/
def FromMovingShape (setup : BuildSetup α) (start : Builder α) (ds : List (LocatedDirective α))
    (s : MovingShape α) : Prop :=
  ∃ b loc name params, b.graphics.ctm.moves = true ∧
    Made setup start ds ⟨.shape name params, loc⟩ b s (movingShape setup loc name params b)

/-- Every entity with a transform in a builder is what a directive of the run made of the builder
that it was given to. -/
structure Sourced (setup : BuildSetup α) (start : Builder α) (ds : List (LocatedDirective α))
    (b : Builder α) : Prop where
  camera : ∀ k, b.scene.camera = some k → FromCamera setup start ds k
  media : ∀ e ∈ b.scene.media.entries, ∃ c loc params,
    Made setup start ds ⟨.makeNamedMedium e.1 params, loc⟩ c e.2
      (placedMedium setup loc e.1 params c)
  textures : ∀ kind, ∀ t ∈ b.scene.textures kind, ∃ c loc name word implementation params,
    Made setup start ds ⟨.texture name word implementation params, loc⟩ c t
      (placedTexture setup loc name params implementation c)
  lights : ∀ l ∈ b.scene.lights, ∃ c loc name params,
    Made setup start ds ⟨.lightSource name params, loc⟩ c l (placedLight setup loc name params c)
  stillShapes : ∀ s ∈ b.stillShapes, FromStillShape setup start ds s
  movingShapes : ∀ s ∈ b.movingShapes, FromMovingShape setup start ds s
  instances : ∀ i ∈ b.scene.instances, ∃ c loc,
    Made setup start ds ⟨.objectInstance i.name, loc⟩ c i.placement (placementHere setup c)

namespace Sourced

variable {setup : BuildSetup α} {start b b' : Builder α} {ds : List (LocatedDirective α)}

theorem of_fresh (fresh : Fresh start) : Sourced setup start [] start := by
  obtain ⟨settings, pool, rfl⟩ := fresh
  refine ⟨fun k absent => absurd absent (by simp [initial, Scene.initial]), ?_, ?_, ?_, ?_, ?_, ?_⟩
  · exact fun e he => absurd he List.not_mem_nil
  · intro kind t ht
    cases kind <;> exact absurd ht List.not_mem_nil
  · exact fun l hl => absurd hl List.not_mem_nil
  · exact fun s hs => absurd hs List.not_mem_nil
  · exact fun s hs => absurd hs List.not_mem_nil
  · exact fun i hi => absurd hi List.not_mem_nil

/-- The run goes on. -/
theorem concat (sourced : Sourced setup start ds b) (d : LocatedDirective α) :
    Sourced setup start (ds ++ [d]) b where
  camera := fun k present =>
    let ⟨c, loc, name, params, options, made⟩ := sourced.camera k present
    ⟨c, loc, name, params, options, made.concat d⟩
  media := fun e he =>
    let ⟨c, loc, params, made⟩ := sourced.media e he
    ⟨c, loc, params, made.concat d⟩
  textures := fun kind t ht =>
    let ⟨c, loc, name, word, implementation, params, made⟩ := sourced.textures kind t ht
    ⟨c, loc, name, word, implementation, params, made.concat d⟩
  lights := fun l hl =>
    let ⟨c, loc, name, params, made⟩ := sourced.lights l hl
    ⟨c, loc, name, params, made.concat d⟩
  stillShapes := fun s hs =>
    let ⟨c, loc, name, params, still, made⟩ := sourced.stillShapes s hs
    ⟨c, loc, name, params, still, made.concat d⟩
  movingShapes := fun s hs =>
    let ⟨c, loc, name, params, moves, made⟩ := sourced.movingShapes s hs
    ⟨c, loc, name, params, moves, made.concat d⟩
  instances := fun i hi =>
    let ⟨c, loc, made⟩ := sourced.instances i hi
    ⟨c, loc, made.concat d⟩

/-- Only the entities and the camera count. -/
theorem of_sameEntities (sourced : Sourced setup start ds b) (same : SameEntities b b')
    (camera : ∀ k, b'.scene.camera = some k → FromCamera setup start ds k) :
    Sourced setup start ds b' := by
  unfold SameEntities at same
  rw [same] at camera ⊢
  refine { sourced with camera := camera, textures := fun kind => ?_ }
  cases kind
  · exact sourced.textures .float
  · exact sourced.textures .spectrum

theorem finishObject (sourced : Sourced setup start ds b) (intact : Intact b) :
    Sourced setup start ds b.finishObject := by
  have still := stillShapes_finishObject intact
  have moving := movingShapes_finishObject intact
  cases opened : b.openObject with
  | none => rwa [finishObject_of_none opened]
  | some o =>
    rw [finishObject_of_some opened] at still moving ⊢
    refine { sourced with
      textures := fun kind => ?_
      stillShapes := by rw [still]; exact sourced.stillShapes
      movingShapes := by rw [moving]; exact sourced.movingShapes }
    cases kind
    · exact sourced.textures .float
    · exact sourced.textures .spectrum

theorem addStillShape {s : StillShape α} (sourced : Sourced setup start ds b)
    (source : FromStillShape setup start ds s) : Sourced setup start ds (b.addStillShape s) := by
  have still : ∀ t ∈ (b.addStillShape s).stillShapes, FromStillShape setup start ds t := by
    intro t ht
    rcases mem_stillShapes_addStillShape ht with before | rfl
    · exact sourced.stillShapes t before
    · exact source
  have moving := movingShapes_addStillShape (b := b) s
  cases opened : b.openObject with
  | none =>
    rw [addStillShape_of_none opened] at still ⊢
    exact { sourced with stillShapes := still }
  | some o =>
    rw [addStillShape_of_some opened] at still moving ⊢
    exact { sourced with
      stillShapes := still
      movingShapes := by rw [moving]; exact sourced.movingShapes }

theorem addMovingShape {s : MovingShape α} (sourced : Sourced setup start ds b)
    (source : FromMovingShape setup start ds s) :
    Sourced setup start ds (b.addMovingShape s) := by
  have moving : ∀ t ∈ (b.addMovingShape s).movingShapes, FromMovingShape setup start ds t := by
    intro t ht
    rcases mem_movingShapes_addMovingShape ht with before | rfl
    · exact sourced.movingShapes t before
    · exact source
  have still := stillShapes_addMovingShape (b := b) s
  cases opened : b.openObject with
  | none =>
    rw [addMovingShape_of_none opened] at moving ⊢
    exact { sourced with movingShapes := moving }
  | some o =>
    rw [addMovingShape_of_some opened] at moving still ⊢
    exact { sourced with
      movingShapes := moving
      stillShapes := by rw [still]; exact sourced.stillShapes }

theorem addTexture {texture : Texture α} {kind : TextureKind} {pool : TransformPool α}
    (sourced : Sourced setup start ds b)
    (source : ∃ c loc name word implementation params,
      Made setup start ds ⟨.texture name word implementation params, loc⟩ c texture
        (placedTexture setup loc name params implementation c)) :
    Sourced setup start ds { b with pool := pool, scene := b.scene.addTexture texture kind } := by
  have textures : ∀ other, ∀ t ∈ (b.scene.addTexture texture kind).textures other,
      t ∈ b.scene.textures other ∨ t = texture := by
    intro other t ht
    rw [Scene.textures_addTexture] at ht
    split at ht
    · rename_i same
      rw [same]
      exact (List.mem_append.1 ht).imp_right List.mem_singleton.1
    · exact Or.inl ht
  have fromTexture : ∀ other, ∀ t ∈ (b.scene.addTexture texture kind).textures other, _ :=
    fun other t ht => (textures other t ht).elim (sourced.textures other t) fun new => new ▸ source
  cases kind <;> exact { sourced with textures := fromTexture }

/-- The camera is the one from before, or the one of the directive. -/
theorem camera_step {d : LocatedDirective α} (sourced : Sourced setup start ds b)
    (given : Given setup start (ds ++ [d]) d b) (placing : Placing setup b d b')
    (left : next setup b d = b') :
    ∀ k, b'.scene.camera = some k → FromCamera setup start (ds ++ [d]) k := by
  intro k present
  cases placing with
  | same same => exact (sourced.concat d).camera k (same.camera ▸ present)
  | lookups same => exact (sourced.concat d).camera k (same.camera ▸ present)
  | @camera name params which options =>
    obtain ⟨directive, loc⟩ := d
    obtain rfl : directive = .camera name params := which
    exact ⟨b, loc, name, params, options, given, (Option.some.inj present).symm, by rw [left]⟩

/-- A directive makes one entity at most. -/
theorem step {d : LocatedDirective α} (sourced : Sourced setup start ds b) (intact : Intact b)
    (given : Given setup start (ds ++ [d]) d b) (filing : Filing setup d.loc b d.directive b')
    (placing : Placing setup b d b') (left : next setup b d = b') :
    Sourced setup start (ds ++ [d]) b' := by
  have older := sourced.concat d
  have camera := sourced.camera_step given placing left
  obtain ⟨directive, loc⟩ := d
  cases filing with
  | nothing same _ => exact older.of_sameEntities same camera
  | finished same _ => exact (older.finishObject intact).of_sameEntities same camera
  | object closed _ =>
    -- the object that is opened has no shapes
    refine { older with
      camera := camera
      stillShapes := fun s hs => ?_
      movingShapes := fun s hs => ?_ }
    · exact older.stillShapes s (by simpa [Builder.stillShapes, definitions, closed] using hs)
    · exact older.movingShapes s (by simpa [Builder.movingShapes, definitions, closed] using hs)
  | @texture name word implementation params _ _ =>
    exact older.addTexture ⟨b, loc, name, word, implementation, params, given, rfl, by rw [left]⟩
  | material => exact { older with camera := camera }
  | namedMaterial _ => exact { older with camera := camera }
  | @medium name params new =>
    refine { older with camera := camera, media := fun e he => ?_ }
    rw [Registry.entries_insert_of_new _ new] at he
    rcases List.mem_append.1 he with before | last
    · exact older.media e before
    · obtain rfl := List.mem_singleton.1 last
      exact ⟨b, loc, params, given, rfl, by rw [left]⟩
  | @light name params =>
    refine { older with camera := camera, lights := fun l hl => ?_ }
    rcases List.mem_append.1 hl with before | last
    · exact older.lights l before
    · exact ⟨b, loc, name, params, given, List.mem_singleton.1 last, by rw [left]⟩
  | @stillShape name params _ still =>
    have lit : Sourced setup start (ds ++ [⟨.shape name params, loc⟩])
        (b.lightUp.withPool (Builder.stillShape setup loc name params b).2) := { older with }
    refine lit.addStillShape ⟨b, loc, name, params, still, given, rfl, ?_⟩
    rw [left]
    exact (SamePlacing.addStillShape _ _).pool
  | @movingShape name params _ moves =>
    have lit : Sourced setup start (ds ++ [⟨.shape name params, loc⟩])
        (b.lightUp.withPool (Builder.movingShape setup loc name params b).2) := { older with }
    refine lit.addMovingShape ⟨b, loc, name, params, moves, given, rfl, ?_⟩
    rw [left]
    exact (SamePlacing.addMovingShape _ _).pool
  | @objectInstance name _ _ =>
    refine { older with camera := camera, instances := fun i hi => ?_ }
    rcases List.mem_append.1 hi with before | last
    · exact older.instances i before
    · obtain rfl := List.mem_singleton.1 last
      exact ⟨b, loc, given, rfl, by rw [left]⟩

end Sourced

section Run

variable {setup : BuildSetup α} {start : Builder α}

/-- The entities that a run leaves come from its directives. -/
theorem sourced_after (fresh : Fresh start) (ds : List (LocatedDirective α)) :
    Sourced setup start ds (after setup start ds) := by
  induction ds using List.reverseRecOn with
  | nil => exact .of_fresh fresh
  | append_singleton ds d sourced =>
    have reach : Reachable setup (after setup start ds) := (Reachable.fresh fresh).after ds
    rw [after_append]
    exact sourced.step (intact_of_reachable reach) (.last ds d) (filing_interpretAt reach d)
      (placing_next reach d) rfl

end Run

end SceneScript.Builder
