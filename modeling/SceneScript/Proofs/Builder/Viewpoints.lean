import SceneScript.Proofs.Builder.BuiltStates
import SceneScript.Proofs.Builder.Independence
import SceneScript.Proofs.Builder.Views
import SceneScript.Proofs.Geometry.Viewpoints

/-!
# The places of the cameras of a run

Render space is the world moved by the image of the origin under the stored inverse of a view. In
exact arithmetic this image is the place of the camera, if the camera has one
(`get_renderSpaceOf_of_standsAt`); for then the stored inverse is the inverse, whatever the pool
held at the start (`built_ctm_after`).

A view that cannot be taken back does harm even when another Camera directive follows it, since the
way back from it gets the name of a coordinate system, and may become part of a current transform.
So the views of all Camera directives of a run count that were accepted (`views`).
-/

set_option autoImplicit false

namespace SceneScript.Builder

section Views

variable {α : Type} [Scalar α]

/-- The views of all Camera directives of a run that are accepted. -/
def views (setup : BuildSetup α) :
    Builder α → List (LocatedDirective α) → List (TransformPair α)
  | _, [] => []
  | b, d :: rest => (viewAt setup b d).toList ++ views setup (next setup b d) rest

variable {setup : BuildSetup α}

/-- The last of the views is the one that counts. -/
theorem getLast?_views (b : Builder α) (ds : List (LocatedDirective α)) :
    (views setup b ds).getLast? = lastView setup b ds := by
  induction ds generalizing b with
  | nil => rfl
  | cons d rest ih =>
    rw [views, List.getLast?_append, ih, lastView]
    cases viewAt setup b d <;> rfl

theorem mem_views_of_lastView {b : Builder α} {ds : List (LocatedDirective α)}
    {v : TransformPair α} (last : lastView setup b ds = some v) : v ∈ views setup b ds :=
  List.mem_of_getLast? ((getLast?_views b ds).trans last)

variable {start : Builder α}

/-- The current transforms of a run are built, whatever is in the pool: they do not depend on it. -/
theorem built_ctm_after (fresh : Fresh start) (ds : List (LocatedDirective α)) :
    (after setup start ds).graphics.ctm.Built := by
  have begun : Alike start (start.withPool .empty) := { Alike.refl start with }
  have emptied : Fresh (start.withPool .empty) := by
    obtain ⟨settings, pool, rfl⟩ := fresh
    exact ⟨settings, .empty, rfl⟩
  -- the same directives come to the same current transforms
  have alike : Alike (after setup start ds) (after setup (start.withPool .empty) ds) :=
    alike_after begun rfl
  rw [alike.ctm]
  exact (stateBuilt_after emptied (fun t absent => absurd absent List.not_mem_nil) ds).current

/-- So is the view of its camera. -/
theorem built_of_lastView (fresh : Fresh start) {ds : List (LocatedDirective α)}
    {v : TransformPair α} (view : lastView setup start ds = some v) : v.Built := by
  induction ds using List.reverseRecOn with
  | nil => exact absurd view (by simp [lastView])
  | append_singleton ds d ih =>
    rw [lastView_concat, Option.or_eq_some_iff] at view
    -- the last directive gives the view, or it is the one of the run before
    rcases view with here | ⟨-, before⟩
    · obtain ⟨-, same⟩ := Option.ite_none_right_eq_some.1 here
      exact Option.some.inj same ▸ built_ctm_after fresh ds
    · exact ih before

end Views

/-- The move to the render space of a view takes the place of the camera to the origin. -/
theorem get_renderSpaceOf_of_standsAt {v : TransformPair ℝ} (built : v.Built) (slot : TimeSlot)
    {p : Vec3 ℝ} (stands : (v.get slot).StandsAt p) :
    (renderSpaceOf (some v)).get slot = .translate p.neg := by
  rw [renderSpaceOf, TransformPair.get_map, TransformPair.get_inverse, originAtCamera,
    stands.mapPoint_inverse (built slot).exact]

end SceneScript.Builder
