import SceneScript.Proofs.Builder.Acceptance
import SceneScript.Proofs.Builder.Independence
import SceneScript.Proofs.Geometry.FirstCopies

/-!
# Shared inverses

What a scene records of a transform is the copy in the pool. Its forward matrix is that of the
transform, whatever was looked up before; its inverse is that of the first transform which came
with this forward matrix. A matrix that was stretched by three has the reciprocal of three in its
inverse, while the inverse of the same matrix given by its entries may be one unit in the last
place away (`inverse_depends_on_earlier_copy`).

So the transform to render space of a still shape depends on the current transforms and on render
space only, and the one back also on what was declared before (`copies_share_first_inverse`).
-/

set_option autoImplicit false

namespace SceneScript.Builder

open TransformPool (afterLookups handlesOf standsFor)

variable {α : Type} [Scalar α] {setup : BuildSetup α} {b start : Builder α}

/-- The pool that a run leaves comes from the one at its start by lookups. -/
theorem pool_after (reach : Reachable setup b) (ds : List (LocatedDirective α)) :
    ∃ looked, (after setup b ds).pool = afterLookups setup.hashOf b.pool looked := by
  induction ds generalizing b with
  | nil => exact ⟨[], rfl⟩
  | cons d rest ih =>
    obtain ⟨first, -, here⟩ := pool_next reach d
    obtain ⟨others, later⟩ := ih (reach.next d)
    refine ⟨first ++ others, ?_⟩
    rw [after_cons, later, here]
    exact List.foldl_append.symm

variable [LawfulEquality α]

variable (setup) in
/-- The matrix to render space of a still shape is that of the current transform. -/
theorem renderFromObject_stillShape (b : Builder α) (name : String) (params : List (Param α))
    (loc : Location α) :
    (stillShape setup loc name params b).1.renderFromObject.transform.same
      b.renderFromObject.opening = true :=
  (TransformPool.finds_intern b.pool setup.hashOf b.renderFromObject.opening).same

/-- A lookup has the forward matrix of its transform, and for the rest it is the first transform
looked up with the same hash and the same forward matrix. A still shape is the shape of an accepted
Shape directive of the run. It has the forward matrix of the current transform there, moved to
render space, and for the rest it is the first transform looked up in the run, or present in the
pool before, that can stand for it; its matrix back is the inverse of that one. So two runs that
differ in their pools and in the entities that they declare give a shape the same matrix to render
space. -/
theorem copies_share_first_inverse :
    (∀ (hashOf : TransformHash α) (ts : List (Transform α)) (i : Nat) (t : Transform α),
      ts[i]? = some t → ∃ h, (handlesOf hashOf .empty ts)[i]? = some h ∧
        h.transform.forward.same t.forward = true ∧
        (ts.take (i + 1)).find? (standsFor hashOf t) = some h.transform) ∧
    (∀ (setup : BuildSetup α) (start : Builder α) (ds : List (LocatedDirective α)), Fresh start →
      ∀ s ∈ (after setup start ds).stillShapes, ∃ before rest name params loc,
        ds = before ++ ⟨.shape name params, loc⟩ :: rest ∧
        let b := after setup start before
        let t := b.renderFromWorld.opening.compose b.graphics.ctm.opening
        accepts setup b ⟨.shape name params, loc⟩ = true ∧
        s = (stillShape setup loc name params b).1 ∧
        s.renderFromObject.transform.forward.same t.forward = true ∧
        (∃ looked, b.pool = afterLookups setup.hashOf start.pool looked ∧
          (start.pool.entries ++ (looked ++ [t])).find? (standsFor setup.hashOf t) =
            some s.renderFromObject.transform) ∧
        s.objectFromRender.transform.forward.same s.renderFromObject.transform.backward = true) ∧
    (∀ (setup : BuildSetup α) (start : Builder α) (pool : TransformPool α)
      (ds es : List (LocatedDirective α)),
      ds.filter (fun d => !d.directive.declares) = es.filter (fun d => !d.directive.declares) →
      let b := after setup start ds
      let c := after setup (start.withPool pool) es
      b.phase = .world → b.graphics.ctm.moves = false → ∀ name params loc, ∃ s t : StillShape α,
        Receives b (next setup b ⟨.shape name params, loc⟩) [s] [] ∧
        Receives c (next setup c ⟨.shape name params, loc⟩) [t] [] ∧
        s.renderFromObject.transform.forward.same t.renderFromObject.transform.forward = true) := by
  refine ⟨fun hashOf ts i t arg => ?_, fun setup start ds fresh s hs => ?_, ?_⟩
  · have result : (handlesOf hashOf .empty ts)[i]? = _ :=
      TransformPool.getElem?_handlesOf .empty arg
    refine ⟨_, result, (TransformPool.finds_intern _ hashOf t).same, ?_⟩
    exact TransformPool.find?_of_getElem?_handlesOf .empty arg result
  · obtain ⟨c, loc, name, params, -, made⟩ := (sourced_after fresh ds).stillShapes s hs
    have accepted := made.accepted fresh (lookups_stillShape c name params loc)
    obtain ⟨⟨before, rest, run, rfl⟩, rfl, -⟩ := made
    have reach : Reachable setup start := .fresh fresh
    obtain ⟨looked, pool⟩ := pool_after reach before
    refine ⟨before, rest, name, params, loc, run, accepted, rfl,
      renderFromObject_stillShape setup _ _ _ _, ⟨looked, pool, ?_⟩,
      (TransformPool.finds_intern _ setup.hashOf _).same⟩
    rw [← TransformPool.find?_afterLookups, ← pool]
    exact TransformPool.find?_concat_self _ _
  · intro setup start pool ds es same b c world still name params loc
    -- both runs come to the same block, the same current transforms and the same render space
    have begun : Alike start (start.withPool pool) := { Alike.refl start with }
    have alike : Alike b c := alike_after begun same
    have placed : b.renderFromObject = c.renderFromObject := by
      rw [renderFromObject, renderFromObject, alike.ctm, alike.renderFromWorld]
    refine ⟨_, _, receives_next_stillShape setup name params loc world still,
      receives_next_stillShape setup name params loc (alike.phase ▸ world) (alike.ctm ▸ still), ?_⟩
    have left := renderFromObject_stillShape setup b name params loc
    have right := renderFromObject_stillShape setup c name params loc
    rw [← placed] at right
    exact Transform.same_trans left (Transform.same_symm right)

/-- Control: a move that is looked up twice, the second time with the other zero; and a shape under
a matrix of entries, with another shape under the same stretching declared before it or not. -/
theorem copies_share_first_inverse_stretched :
    let ts : List (Transform Float) := [.translate ⟨1, 0, 0⟩, .translate ⟨1, -0.0, 0⟩]
    let setup : BuildSetup Float := ⟨standardHash, .absent⟩
    let entries : LocatedDirective Float :=
      ⟨.transform [3, 0, 0, 0, 0, 3, 0, 0, 0, 0, 5, 0, 0, 0, 0, 1], .unknown⟩
    let ds : List (LocatedDirective Float) :=
      [⟨.worldBegin, .unknown⟩, ⟨.scale ⟨3, 3, 5⟩, .unknown⟩, ⟨.shape "disk" [], .unknown⟩, entries]
    let es : List (LocatedDirective Float) :=
      [⟨.worldBegin, .unknown⟩, ⟨.scale ⟨3, 3, 5⟩, .unknown⟩, entries]
    let b := after setup (initial .defaults) ds
    let c := after setup (initial .defaults) es
    LawfulEquality Float ∧
      (∃ h, (handlesOf standardHash .empty ts)[1]? = some h ∧
        h.transform.forward.same (Transform.translate ⟨1, -0.0, 0⟩).forward = true) ∧
      ∃ s t : StillShape Float,
        Receives b (next setup b ⟨.shape "sphere" [], .unknown⟩) [s] [] ∧
        Receives c (next setup c ⟨.shape "sphere" [], .unknown⟩) [t] [] ∧
        s.renderFromObject.transform.forward.same t.renderFromObject.transform.forward = true := by
  intro ts setup entries ds es b c
  obtain ⟨lookups, -, shapes⟩ := copies_share_first_inverse (α := Float)
  obtain ⟨h, result, forward, -⟩ := lookups standardHash ts 1 _ rfl
  have world : b.phase = .world := by decide +kernel
  have still : b.graphics.ctm.moves = false := by decide +kernel
  exact ⟨inferInstance, ⟨h, result, forward⟩,
    shapes setup (initial .defaults) .empty ds es rfl world still "sphere" [] .unknown⟩

/-- The matrix that leads back from render space to the last still shape of the scene. -/
def inverseOfLastShape (b : Builder α) : Option (Mat4 α) :=
  b.scene.stillShapes.getLast?.map (·.objectFromRender.transform.forward)

/-- A matrix that was built by stretching and one that is given by its entries are the same, and
have different inverses. A lookup of the second one after the first one returns the inverse of the
first; and whether a shape was declared under the first one decides about the matrix back from
render space of a shape under the second one. -/
theorem inverse_depends_on_earlier_copy :
    let stretched : Transform Float := .scale ⟨3, 3, 5⟩
    let entries : List Float := [3, 0, 0, 0, 0, 3, 0, 0, 0, 0, 5, 0, 0, 0, 0, 1]
    let given : Transform Float := .ofMatrix (.scaling ⟨3, 3, 5⟩)
    let setup : BuildSetup Float := ⟨standardHash, .absent⟩
    let alone := after setup (initial .defaults)
      [⟨.worldBegin, .unknown⟩, ⟨.scale ⟨3, 3, 5⟩, .unknown⟩, ⟨.transform entries, .unknown⟩,
        ⟨.shape "sphere" [], .unknown⟩]
    let behind := after setup (initial .defaults)
      [⟨.worldBegin, .unknown⟩, ⟨.scale ⟨3, 3, 5⟩, .unknown⟩, ⟨.shape "disk" [], .unknown⟩,
        ⟨.transform entries, .unknown⟩, ⟨.shape "sphere" [], .unknown⟩]
    (handlesOf standardHash .empty [stretched, given]).getLast?.map
        (·.transform.backward.same given.backward) = some false ∧
      Option.map₂ Mat4.same alone.inverseOfLastShape behind.inverseOfLastShape = some false := by
  decide +kernel

end SceneScript.Builder
