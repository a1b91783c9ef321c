import SceneScript.Proofs.Builder.Growth
import SceneScript.Proofs.Builder.Placing

/-!
# The view of a camera

A Camera directive in the options block takes the current transforms as those from the world to the
camera, and render space is the world moved so that this camera stands at the origin. A later Camera
directive does so again. `lastView` says which one counts in a run, and `viewed_after` that the
camera and the move to render space of a builder are always those of this last view.

Past the options block the view stays as it is (`lastView_of_world`).
-/

set_option autoImplicit false

namespace SceneScript

variable {α : Type}

/-- Whether a directive is a Camera directive. -/
def Directive.isCamera : Directive α → Bool
  | .camera _ _ => true
  | _ => false

theorem Directive.isCamera_iff {d : Directive α} :
    d.isCamera = true ↔ ∃ name params, d = .camera name params := by
  cases d <;> simp [isCamera]

variable [Scalar α]

/-- Handles that stand for the two transforms of a pair. -/
def TimedTransform.StandsFor (t : TimedTransform α) (pair : TransformPair α) : Prop :=
  t.opening.transform.same pair.opening = true ∧ t.closing.transform.same pair.closing = true

namespace Builder

/-- The moves from the world to render space under the view of a camera; none without a camera. -/
def renderSpaceOf : Option (TransformPair α) → TransformPair α
  | none => .identity
  | some view => view.inverse.map fun _ => originAtCamera

/-- The view that a directive gives to the camera, if it is a Camera directive that is accepted. -/
def viewAt (setup : BuildSetup α) (b : Builder α) (d : LocatedDirective α) :
    Option (TransformPair α) :=
  if d.directive.isCamera && accepts setup b d then some b.graphics.ctm else none

/-- The view of the last Camera directive of a run that is accepted. -/
def lastView (setup : BuildSetup α) :
    Builder α → List (LocatedDirective α) → Option (TransformPair α)
  | _, [] => none
  | b, d :: rest => (lastView setup (next setup b d) rest).or (viewAt setup b d)

variable {setup : BuildSetup α} {b start : Builder α}

theorem lastView_append (ds es : List (LocatedDirective α)) :
    lastView setup b (ds ++ es) =
      (lastView setup (after setup b ds) es).or (lastView setup b ds) := by
  induction ds generalizing b with
  | nil => exact (Option.or_none).symm
  | cons d rest ih => rw [List.cons_append, lastView, ih, Option.or_assoc, lastView, after_cons]

theorem lastView_concat (ds : List (LocatedDirective α)) (d : LocatedDirective α) :
    lastView setup b (ds ++ [d]) =
      (viewAt setup (after setup b ds) d).or (lastView setup b ds) := by
  rw [lastView_append, lastView, lastView, Option.none_or]

/-! ## Camera directives -/

section Camera

variable (setup) (name : String) (params : List (Param α)) (loc : Location α)

theorem run_interpretAt_camera (options : b.phase = .options) :
    (interpretAt setup ⟨.camera name params, loc⟩).run b =
      (performCamera setup loc name params).run b :=
  run_interpretAt_of_placed (by rw [options]; rfl)

/-- A Camera directive is accepted in the options block, and nowhere else. -/
theorem accepts_camera_iff :
    accepts setup b ⟨.camera name params, loc⟩ = true ↔ b.phase = .options := by
  constructor
  · intro accepted
    by_contra elsewhere
    have misplaced : ¬ (Directive.camera name params : Directive α).AllowedIn b.phase := by
      cases phase : b.phase with
      | options => exact absurd phase elsewhere
      | world => exact fun allowed => allowed rfl
      | finished => exact id
    obtain ⟨text, run⟩ :=
      run_interpretAt_of_ignored setup (d := ⟨.camera name params, loc⟩) (Or.inl misplaced)
    simp [accepts, run, BuildNotice.isError] at accepted
  · intro options
    unfold accepts
    rw [run_interpretAt_camera setup name params loc options, run_performCamera]
    rfl

end Camera

theorem viewAt_eq_none_iff {d : LocatedDirective α} :
    viewAt setup b d = none ↔ ¬ (d.directive.isCamera = true ∧ b.phase = .options) := by
  obtain ⟨directive, loc⟩ := d
  unfold viewAt
  cases camera : directive.isCamera with
  | false => simp
  | true =>
    obtain ⟨name, params, rfl⟩ := Directive.isCamera_iff.1 camera
    simp [← accepts_camera_iff setup name params loc]

/-- Past the options block no directive changes the view. -/
theorem lastView_of_world (reach : Reachable setup b) (past : b.phase ≠ .options)
    (ds : List (LocatedDirective α)) : lastView setup b ds = none := by
  induction ds generalizing b with
  | nil => rfl
  | cons d rest ih =>
    have still : (next setup b d).phase ≠ .options := by
      rcases (outcome_interpretAt reach d).moves with same | ⟨-, -, world⟩ | ⟨-, -, finished⟩
      · exact fun options => past (same.symm.trans options)
      · exact fun options => absurd (world.symm.trans options) (by simp)
      · exact fun options => absurd (finished.symm.trans options) (by simp)
    rw [lastView, ih (reach.next d) still, viewAt_eq_none_iff.2 fun h => past h.2]
    rfl

/-- No other directive moves the camera or render space. -/
theorem view_next_of_not_camera {d : LocatedDirective α} (reach : Reachable setup b)
    (other : ¬ (d.directive.isCamera = true ∧ b.phase = .options)) :
    (next setup b d).renderFromWorld = b.renderFromWorld ∧
      (next setup b d).scene.camera = b.scene.camera := by
  have placing := placing_next reach d
  generalize next setup b d = b' at placing ⊢
  cases placing with
  | same same => exact ⟨same.renderFromWorld, same.camera⟩
  | lookups same => exact ⟨same.renderFromWorld, same.camera⟩
  | camera which options => exact absurd ⟨by rw [which]; rfl, options⟩ other

/-- A run that gives no new view keeps the camera. -/
theorem camera_after_of_lastView (reach : Reachable setup b) {ds : List (LocatedDirective α)}
    (none : lastView setup b ds = none) :
    (after setup b ds).scene.camera = b.scene.camera := by
  induction ds generalizing b with
  | nil => rfl
  | cons d rest ih =>
    rw [lastView, Option.or_eq_none_iff, viewAt_eq_none_iff] at none
    exact (ih (reach.next d) none.1).trans (view_next_of_not_camera reach none.2).2

/-! ## The camera of a run -/

theorem standsFor_internedPair [LawfulEquality α] (b : Builder α) (pair : TransformPair α) :
    (internedPair setup b pair).1.StandsFor pair :=
  ⟨(TransformPool.finds_intern _ _ _).same, (TransformPool.finds_intern _ _ _).same⟩

/-- The camera and the move to render space are those of a view. -/
structure Viewed (b : Builder α) (view : Option (TransformPair α)) : Prop where
  renderFromWorld : b.renderFromWorld = renderSpaceOf view
  present : b.scene.camera.isSome = view.isSome
  camera : ∀ k v, b.scene.camera = some k → view = some v →
    k.renderFromCamera.StandsFor (renderFromCamera v (renderSpaceOf (some v))) ∧
      k.worldFromCamera.StandsFor v.inverse

theorem viewed_of_fresh (fresh : Fresh b) : Viewed b none := by
  obtain ⟨settings, pool, rfl⟩ := fresh
  exact ⟨rfl, rfl, fun _ _ absent => absurd absent (by simp [initial, Scene.initial])⟩

variable [LawfulEquality α]

theorem Viewed.next {view : Option (TransformPair α)} (viewed : Viewed b view)
    (reach : Reachable setup b) (d : LocatedDirective α) :
    Viewed (next setup b d) ((viewAt setup b d).or view) := by
  by_cases fixes : d.directive.isCamera = true ∧ b.phase = .options
  · obtain ⟨directive, loc⟩ := d
    obtain ⟨camera, options⟩ := fixes
    obtain ⟨name, params, rfl⟩ := Directive.isCamera_iff.1 camera
    have here : viewAt setup b ⟨.camera name params, loc⟩ = some b.graphics.ctm :=
      if_pos (by rw [(accepts_camera_iff setup name params loc).2 options]; rfl)
    have left : Builder.next setup b ⟨.camera name params, loc⟩ = _ :=
      congrArg Outcome.state ((run_interpretAt_camera setup name params loc options).trans
        (run_performCamera setup loc name params))
    rw [here, left, Option.some_or]
    refine ⟨rfl, rfl, ?_⟩
    rintro k v made same
    obtain rfl := Option.some.inj made
    obtain rfl := Option.some.inj same
    exact ⟨standsFor_internedPair b _, standsFor_internedPair _ _⟩
  · rw [viewAt_eq_none_iff.2 fixes, Option.none_or]
    obtain ⟨renderFromWorld, camera⟩ := view_next_of_not_camera reach fixes
    refine ⟨renderFromWorld.trans viewed.renderFromWorld, ?_, ?_⟩
    · rw [camera]
      exact viewed.present
    · rw [camera]
      exact viewed.camera

/-- The camera and the move to render space of a run are those of its last view. -/
theorem viewed_after (fresh : Fresh start) (ds : List (LocatedDirective α)) :
    Viewed (after setup start ds) (lastView setup start ds) := by
  induction ds using List.reverseRecOn with
  | nil => exact viewed_of_fresh fresh
  | append_singleton ds d viewed =>
    rw [after_append, lastView_concat]
    exact viewed.next ((Reachable.fresh fresh).after ds) d

end Builder

end SceneScript
