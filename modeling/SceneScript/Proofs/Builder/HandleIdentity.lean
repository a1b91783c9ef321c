import SceneScript.Proofs.Builder.Provenance

/-!
# Handles tell transforms apart

A renderer compares the transforms of a scene by their handles. This is right because every handle
in a scene comes from the pool, and is what its transform finds there from then on
(`Pooled`): two of them are the same handle exactly when their transforms are the same.

So the handles of a timed transform differ exactly when it moves, and shapes that share the
transform to render space share the one back, which is looked up as the inverse of the pooled copy.
All this is put together in `handles_identical_iff_same`.
-/

set_option autoImplicit false

namespace SceneScript

variable {α : Type}

/-! ## The handles of a scene -/

/-- The handles for the two times. -/
def TimedTransform.handles (t : TimedTransform α) : List (Handle α) :=
  [t.opening, t.closing]

/-- The transform of an instance that moves. -/
def Placement.timed : Placement α → List (TimedTransform α)
  | .still _ => []
  | .moving t => [t]

/-- The transform of an instance that stands still. -/
def Placement.stills : Placement α → List (Handle α)
  | .still h => [h]
  | .moving _ => []

namespace Builder

/-- All transforms of a builder's entities that are recorded for two times. -/
def timedTransforms (b : Builder α) : List (TimedTransform α) :=
  b.scene.camera.toList.flatMap (fun k => [k.renderFromCamera, k.worldFromCamera]) ++
    (b.scene.media.entries.map (·.2.renderFromObject) ++
      (b.scene.floatTextures.map (·.renderFromObject) ++
        (b.scene.spectrumTextures.map (·.renderFromObject) ++
          (b.scene.lights.map (·.renderFromObject) ++
            (b.movingShapes.map (·.renderFromObject) ++
              b.scene.instances.flatMap (·.placement.timed))))))

/-- All transforms of a builder's entities that are recorded once. -/
def stillTransforms (b : Builder α) : List (Handle α) :=
  b.stillShapes.flatMap (fun s => [s.renderFromObject, s.objectFromRender]) ++
    (b.movingShapes.map (·.identity) ++ b.scene.instances.flatMap (·.placement.stills))

/-- All handles in a builder's entities. -/
def handles (b : Builder α) : List (Handle α) :=
  b.timedTransforms.flatMap (·.handles) ++ b.stillTransforms

end Builder

/-! ## Handles from the pool -/

variable [Scalar α]

/-- A handle that its own transform finds in the pool. -/
def TransformPool.Holds (hashOf : TransformHash α) (p : TransformPool α) (h : Handle α) : Prop :=
  p.Finds hashOf h.transform h

/-- Both handles of a timed transform are from the pool. -/
def TransformPool.HoldsTimed (hashOf : TransformHash α) (p : TransformPool α)
    (t : TimedTransform α) : Prop :=
  p.Holds hashOf t.opening ∧ p.Holds hashOf t.closing

namespace TransformPool

variable {hashOf : TransformHash α} {p q : TransformPool α}

theorem Holds.mono {h : Handle α} (holds : p.Holds hashOf h)
    (grown : p.entries <+: q.entries) : q.Holds hashOf h :=
  Finds.mono holds grown

theorem HoldsTimed.mono {t : TimedTransform α} (holds : p.HoldsTimed hashOf t)
    (grown : p.entries <+: q.entries) : q.HoldsTimed hashOf t :=
  ⟨holds.1.mono grown, holds.2.mono grown⟩

variable [LawfulEquality α]

theorem holds_intern (p : TransformPool α) (t : Transform α) :
    (p.intern hashOf t).2.Holds hashOf (p.intern hashOf t).1 :=
  (p.finds_intern hashOf t).self

/-- Where the hash respects equality, two handles from a pool are the same handle exactly when
their transforms are the same. -/
theorem Holds.identical_iff (respects : Respects hashOf) {g h : Handle α}
    (holdsG : p.Holds hashOf g) (holdsH : p.Holds hashOf h) :
    (g.slot = h.slot ↔ g.transform.same h.transform = true) ∧ (g = h ↔ g.slot = h.slot) := by
  obtain ⟨slots, handles⟩ := Finds.slot_eq_iff respects holdsG holdsH
  exact ⟨slots, handles.trans slots.symm⟩

end TransformPool

namespace Builder

variable {setup : BuildSetup α} {b start : Builder α}

theorem entries_internedPair (b : Builder α) (pair : TransformPair α) :
    b.pool.entries <+: (internedPair setup b pair).2.entries :=
  (TransformPool.entries_intern _ _ _).trans (TransformPool.entries_intern _ _ _)

section Run

variable {ds : List (LocatedDirective α)} {d : LocatedDirective α}

theorem entries_pool_after (reach : Reachable setup b) (ds : List (LocatedDirective α)) :
    b.pool.entries <+: (after setup b ds).pool.entries := by
  induction ds generalizing b with
  | nil => exact List.prefix_rfl
  | cons d rest ih => exact (entries_pool_next reach d).trans (ih (reach.next d))

/-- What was in the pool when a thing was made is in it at the end of the run. -/
theorem Made.entries_after {β : Type} {thing : β} {made : β × TransformPool α}
    (m : Made setup start ds d b thing made) (reach : Reachable setup start) :
    made.2.entries <+: (after setup start ds).pool.entries := by
  obtain ⟨rest, run⟩ := m.given.exists_after
  rw [run, ← m.pool]
  exact entries_pool_after ((m.given.reachable reach).next d) rest

end Run

variable [LawfulEquality α]

theorem holdsTimed_internedPair (b : Builder α) (pair : TransformPair α) :
    (internedPair setup b pair).2.HoldsTimed setup.hashOf (internedPair setup b pair).1 :=
  ⟨(TransformPool.holds_intern _ _).mono (TransformPool.entries_intern _ _ _),
    TransformPool.holds_intern _ _⟩

/-- The two handles of a shape that stands still are from the pool, and the second one is what the
inverse of the first transform finds there. -/
structure StillShapePooled (hashOf : TransformHash α) (p : TransformPool α) (s : StillShape α) :
    Prop where
  forward : p.Holds hashOf s.renderFromObject
  backward : p.Finds hashOf s.renderFromObject.transform.inverse s.objectFromRender

/-- Every handle in a builder's entities is from its pool. -/
structure Pooled (hashOf : TransformHash α) (b : Builder α) : Prop where
  timed : ∀ t ∈ b.timedTransforms, b.pool.HoldsTimed hashOf t
  stillShapes : ∀ s ∈ b.stillShapes, StillShapePooled hashOf b.pool s
  identities : ∀ s ∈ b.movingShapes, b.pool.Holds hashOf s.identity
  instances : ∀ i ∈ b.scene.instances, ∀ h ∈ i.placement.stills, b.pool.Holds hashOf h

section Made

variable {ds : List (LocatedDirective α)}

theorem FromCamera.pooled {k : Camera α} (source : FromCamera setup start ds k)
    (reach : Reachable setup start) :
    (after setup start ds).pool.HoldsTimed setup.hashOf k.renderFromCamera ∧
      (after setup start ds).pool.HoldsTimed setup.hashOf k.worldFromCamera := by
  obtain ⟨c, loc, name, params, -, made⟩ := source
  have grown := made.entries_after reach
  rw [made.thing]
  refine ⟨(holdsTimed_internedPair c _).mono ?_, (holdsTimed_internedPair _ _).mono grown⟩
  exact (entries_internedPair _ _).trans grown

theorem FromStillShape.pooled {s : StillShape α} (source : FromStillShape setup start ds s)
    (reach : Reachable setup start) :
    StillShapePooled setup.hashOf (after setup start ds).pool s := by
  obtain ⟨c, loc, name, params, -, made⟩ := source
  have grown := made.entries_after reach
  rw [made.thing]
  refine ⟨(TransformPool.holds_intern c.pool _).mono ?_,
    (TransformPool.finds_intern _ _ _).mono grown⟩
  exact (TransformPool.entries_intern _ _ _).trans grown

theorem FromMovingShape.pooled {s : MovingShape α} (source : FromMovingShape setup start ds s)
    (reach : Reachable setup start) :
    (after setup start ds).pool.HoldsTimed setup.hashOf s.renderFromObject ∧
      (after setup start ds).pool.Holds setup.hashOf s.identity := by
  obtain ⟨c, loc, name, params, -, made⟩ := source
  have grown := made.entries_after reach
  rw [made.thing]
  refine ⟨(holdsTimed_internedPair c _).mono ?_, (TransformPool.holds_intern _ _).mono grown⟩
  exact (TransformPool.entries_intern _ _ _).trans grown

/-- Where an instance stands still or moves, its handles are from the pool. -/
theorem pooled_internedPlacement (b : Builder α) (moving : Bool) (pair : TransformPair α) :
    (∀ t ∈ (internedPlacement setup b moving pair).1.timed,
      (internedPlacement setup b moving pair).2.HoldsTimed setup.hashOf t) ∧
    (∀ h ∈ (internedPlacement setup b moving pair).1.stills,
      (internedPlacement setup b moving pair).2.Holds setup.hashOf h) := by
  cases moving with
  | true =>
    refine ⟨fun t ht => ?_, fun h hh => absurd hh List.not_mem_nil⟩
    rw [List.mem_singleton.1 ht]
    exact holdsTimed_internedPair b pair
  | false =>
    refine ⟨fun t ht => absurd ht List.not_mem_nil, fun h hh => ?_⟩
    rw [List.mem_singleton.1 hh]
    exact TransformPool.holds_intern _ _

end Made

/-- The handles that a run leaves in the entities are from the pool that it leaves. -/
theorem pooled_after (fresh : Fresh start) (ds : List (LocatedDirective α)) :
    Pooled setup.hashOf (after setup start ds) := by
  have reach : Reachable setup start := .fresh fresh
  have sourced : Sourced setup start ds (after setup start ds) := sourced_after fresh ds
  have texture : ∀ kind, ∀ x ∈ (after setup start ds).scene.textures kind,
      (after setup start ds).pool.HoldsTimed setup.hashOf x.renderFromObject := by
    intro kind x hx
    obtain ⟨c, loc, name, word, implementation, params, made⟩ := sourced.textures kind x hx
    rw [made.thing]
    exact (holdsTimed_internedPair c _).mono (made.entries_after reach)
  refine ⟨fun t ht => ?_, fun s hs => (sourced.stillShapes s hs).pooled reach,
    fun s hs => ((sourced.movingShapes s hs).pooled reach).2, fun i hi h hh => ?_⟩
  · simp only [timedTransforms, List.mem_append, List.mem_flatMap, List.mem_map] at ht
    rcases ht with ⟨k, hk, ht⟩ | ⟨e, he, rfl⟩ | ⟨x, hx, rfl⟩ | ⟨x, hx, rfl⟩ | ⟨l, hl, rfl⟩ |
      ⟨s, hs, rfl⟩ | ⟨i, hi, ht⟩
    · obtain ⟨toRender, toWorld⟩ := (sourced.camera k (Option.mem_toList.1 hk)).pooled reach
      rcases List.mem_pair.1 ht with rfl | rfl
      · exact toRender
      · exact toWorld
    · obtain ⟨c, loc, params, made⟩ := sourced.media e he
      rw [made.thing]
      exact (holdsTimed_internedPair c _).mono (made.entries_after reach)
    · exact texture .float x hx
    · exact texture .spectrum x hx
    · obtain ⟨c, loc, name, params, made⟩ := sourced.lights l hl
      rw [made.thing]
      exact (holdsTimed_internedPair c _).mono (made.entries_after reach)
    · exact ((sourced.movingShapes s hs).pooled reach).1
    · obtain ⟨c, loc, made⟩ := sourced.instances i hi
      rw [made.thing] at ht
      exact ((pooled_internedPlacement c _ _).1 t ht).mono (made.entries_after reach)
  · obtain ⟨c, loc, made⟩ := sourced.instances i hi
    rw [made.thing] at hh
    exact ((pooled_internedPlacement c _ _).2 h hh).mono (made.entries_after reach)

/-! ## Identity -/

namespace Pooled

theorem holds {hashOf : TransformHash α} (pooled : Pooled hashOf b) :
    ∀ h ∈ b.handles, b.pool.Holds hashOf h := by
  intro h hh
  rcases List.mem_append.1 hh with timed | still
  · obtain ⟨t, ht, mem⟩ := List.mem_flatMap.1 timed
    obtain ⟨opening, closing⟩ := pooled.timed t ht
    rcases List.mem_pair.1 mem with rfl | rfl
    · exact opening
    · exact closing
  · simp only [stillTransforms, List.mem_append, List.mem_flatMap, List.mem_map] at still
    rcases still with ⟨s, hs, mem⟩ | ⟨s, hs, rfl⟩ | ⟨i, hi, mem⟩
    · obtain ⟨forward, backward⟩ := pooled.stillShapes s hs
      rcases List.mem_pair.1 mem with rfl | rfl
      · exact forward
      · exact backward.self
    · exact pooled.identities s hs
    · exact pooled.instances i hi h mem

end Pooled

/-- With the hash that pools use unless they are given another one: any two handles in the entities
of a reachable builder are one handle exactly when their transforms are the same; a timed transform
moves exactly when its two transforms differ; still shapes with one handle to render space have one
handle back; and the transform back is the inverse that the one to render space has stored. -/
theorem handles_identical_iff_same (standard : setup.hashOf = standardHash)
    (reach : Reachable setup b) :
    (∀ g ∈ b.handles, ∀ h ∈ b.handles,
      (g.slot = h.slot ↔ g.transform.same h.transform = true) ∧ (g = h ↔ g.slot = h.slot)) ∧
    (∀ t ∈ b.timedTransforms, t.moves = !t.opening.transform.same t.closing.transform) ∧
    (∀ s ∈ b.stillShapes, ∀ t ∈ b.stillShapes, s.renderFromObject.slot = t.renderFromObject.slot →
      s.objectFromRender = t.objectFromRender) ∧
    (∀ s ∈ b.stillShapes,
      s.objectFromRender.transform.forward.same s.renderFromObject.transform.backward = true) := by
  obtain ⟨start, ds, fresh, rfl⟩ := reachable_iff.1 reach
  have pooled : Pooled standardHash (after setup start ds) := standard ▸ pooled_after fresh ds
  refine ⟨fun g hg h hh => ?_, fun t ht => ?_, fun s hs t ht slots => ?_, fun s hs => ?_⟩
  · exact (pooled.holds g hg).identical_iff respects_standardHash (pooled.holds h hh)
  · obtain ⟨opening, closing⟩ := pooled.timed t ht
    obtain ⟨slots, -⟩ := opening.identical_iff respects_standardHash closing
    rw [TimedTransform.moves, bne, Bool.not_inj_iff, Bool.eq_iff_iff, beq_iff_eq]
    exact slots
  · obtain ⟨forwardS, backwardS⟩ := pooled.stillShapes s hs
    obtain ⟨forwardT, backwardT⟩ := pooled.stillShapes t ht
    obtain ⟨-, handles⟩ := forwardS.identical_iff respects_standardHash forwardT
    rw [handles.2 slots] at backwardS
    exact Option.some.inj (backwardS.symm.trans backwardT)
  · exact (pooled.stillShapes s hs).backward.same

/-- Control: two shapes that stand still in one place, by moves that differ in the sign of a zero,
and between them a light that moves. -/
theorem handles_identical_iff_same_two_shapes_and_light :
    let setup : BuildSetup Float := ⟨standardHash, .absent⟩
    let b := after setup (initial .defaults)
      [⟨.worldBegin, .unknown⟩, ⟨.translate ⟨1, 0, 0⟩, .unknown⟩, ⟨.shape "sphere" [], .unknown⟩,
        ⟨.activeTransform .endTime, .unknown⟩, ⟨.translate ⟨0, 1, 0⟩, .unknown⟩,
        ⟨.lightSource "point" [], .unknown⟩, ⟨.activeTransform .all, .unknown⟩,
        ⟨.identity, .unknown⟩, ⟨.translate ⟨1, -0.0, 0⟩, .unknown⟩, ⟨.shape "disk" [], .unknown⟩]
    LawfulEquality Float ∧ setup.hashOf = standardHash ∧ Reachable setup b ∧
      b.handles.map (·.slot) = [0, 2, 0, 1, 0, 1] ∧
      (∀ t ∈ b.timedTransforms, t.opening.transform.same t.closing.transform = false) ∧
      ∀ s ∈ b.stillShapes, ∀ t ∈ b.stillShapes, s.objectFromRender = t.objectFromRender := by
  intro setup b
  have reach : Reachable setup b := (Reachable.fresh (fresh_initial _)).after _
  have moving : ∀ t ∈ b.timedTransforms, t.moves = true := by decide +kernel
  have together : ∀ s ∈ b.stillShapes, s.renderFromObject.slot = 0 := by decide +kernel
  obtain ⟨-, moves, share, -⟩ := handles_identical_iff_same rfl reach
  refine ⟨inferInstance, rfl, reach, by decide +kernel, fun t ht => ?_, fun s hs t ht => ?_⟩
  · rw [← Bool.not_eq_true', ← moves t ht]
    exact moving t ht
  · exact share s hs t ht ((together s hs).trans (together t ht).symm)

end Builder

end SceneScript
