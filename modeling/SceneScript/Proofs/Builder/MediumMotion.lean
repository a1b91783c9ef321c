import SceneScript.Proofs.Builder.CameraSystem
import SceneScript.Proofs.Builder.RenderSpace

/-!
# Media that move

A medium has one place only. MakeNamedMedium warns if the current transform moves, and says that it
ignores the motion and takes the transform for the opening time. In fact it looks both transforms
up, and the medium keeps both handles: it moves exactly when its transforms to render space differ,
warning or not (`media_move_as_their_transforms_do`). The motion of a camera enters these transforms
and not the current one, so that there are media that move without a warning
(`media_move_in_spite_of_warning`).

The warnings are as announced. A run warns once for every medium that it accepts while the current
transform moves, in the order of the declarations, and never otherwise (`filter_noticesOf`).
-/

set_option autoImplicit false

namespace SceneScript

variable {α : Type}

/-- Whether a directive is a MakeNamedMedium directive. -/
def Directive.isMedium : Directive α → Bool
  | .makeNamedMedium _ _ => true
  | _ => false

theorem Directive.isMedium_iff {d : Directive α} :
    d.isMedium = true ↔ ∃ name params, d = .makeNamedMedium name params := by
  cases d <;> simp [isMedium]

namespace BuildNotice

/-- What is said of a medium under a current transform that moves. -/
def motionText : String :=
  "Animated transformations set; ignoring for \"MakeNamedMedium\" and using the start transform only"

/-- The warning about a medium under a current transform that moves. -/
def motionWarning (loc : Location α) : BuildNotice α :=
  .message ⟨.warning, motionText, some loc⟩

/-- Whether a notice warns of a medium under a current transform that moves. -/
def isMotionWarning : BuildNotice α → Bool
  | .message m => decide (m.severity = .warning) && decide (m.text = motionText)
  | _ => false

theorem isWarning_of_isMotionWarning {n : BuildNotice α} (motion : n.isMotionWarning = true) :
    n.isWarning = true := by
  cases n with
  | message m => exact (Bool.and_eq_true_iff.1 motion).1
  | render scene => exact absurd motion Bool.false_ne_true
  | report statistics => exact absurd motion Bool.false_ne_true

theorem isMotionWarning_of_text {severity : Severity} {text : String} {loc : Option (Location α)}
    (other : text ≠ motionText) :
    (BuildNotice.message ⟨severity, text, loc⟩).isMotionWarning = false := by
  simp [isMotionWarning, other]

/-- What begins with another letter is another text. -/
theorem append_ne_motionText {first rest : String} (letter : first.toList.head? ≠ some 'A')
    (nonempty : first.toList ≠ []) : first ++ rest ≠ motionText := by
  intro same
  have letters := congrArg (fun text => text.toList.head?) same
  rw [String.toList_append, List.head?_append_of_ne_nil _ nonempty] at letters
  exact letter letters

theorem filter_of_quiet {ns : List (BuildNotice α)} (quiet : ∀ n ∈ ns, n.isMotionWarning = false) :
    ns.filter (·.isMotionWarning) = [] :=
  List.filter_eq_nil_iff.2 fun n hn => by simp [quiet n hn]

end BuildNotice

namespace Builder

open BuildNotice

variable [Scalar α] {setup : BuildSetup α} {b start : Builder α}

/-! ## Warnings -/

/-- The warnings about a moving medium that a directive is to give. -/
def motionWarningsAt (setup : BuildSetup α) (b : Builder α) (d : LocatedDirective α) :
    List (BuildNotice α) :=
  if d.directive.isMedium && accepts setup b d && b.graphics.ctm.moves
  then [motionWarning d.loc] else []

/-- The warnings about moving media that directives in turn are to give. -/
def motionWarnings (setup : BuildSetup α) :
    Builder α → List (LocatedDirective α) → List (BuildNotice α)
  | _, [] => []
  | b, d :: rest => motionWarningsAt setup b d ++ motionWarnings setup (next setup b d) rest

section Quiet

variable {loc : Location α} {d : Directive α}
  {o : Outcome (BuildError α) (Builder α) (BuildNotice α) Unit}

/-- Other directives that leave the scopes alone give no such warning. -/
theorem Effect.quiet (effect : Effect setup loc b d o) (other : d.isMedium = false) :
    ∀ n ∈ o.notices, n.isMotionWarning = false := by
  have lights : ∀ n ∈ lightWarnings loc b, n.isMotionWarning = false := by
    intro n hn
    unfold lightWarnings at hn
    split at hn
    · rw [List.mem_singleton.1 hn]
      exact isMotionWarning_of_text (by decide)
    · exact absurd hn List.not_mem_nil
  cases effect with
  | ignored _ =>
    intro n hn
    rw [List.mem_singleton.1 hn]
    rfl
  | unknownCoordSys _ =>
    intro n hn
    rw [List.mem_singleton.1 hn, String.append_assoc]
    exact isMotionWarning_of_text (append_ne_motionText (by decide) (by decide))
  | makeNamedMedium _ => exact absurd other (by simp [Directive.isMedium])
  | stillShape _ => exact lights
  | movingShape _ => exact lights
  | _ => exact fun n hn => absurd hn List.not_mem_nil

/-- Neither do directives that begin or end something. -/
theorem StepOutcome.quiet (outcome : StepOutcome setup loc b d o)
    (scope : d.scopeRole ≠ .plain) : ∀ n ∈ o.notices, n.isMotionWarning = false := by
  cases outcome with
  | ignored _ =>
    intro n hn
    rw [List.mem_singleton.1 hn]
    rfl
  | plain plain _ _ _ => exact absurd plain scope
  | worldEnd _ =>
    intro n hn
    rcases List.mem_append.1 hn with missing | call
    · obtain ⟨s, -, rfl⟩ := List.mem_map.1 missing
      rw [missingEnd, String.append_assoc, String.append_assoc]
      exact isMotionWarning_of_text (append_ne_motionText (by decide) (by decide))
    · have renderer := isRendererCall_of_mem call
      cases n with
      | message m => exact absurd renderer Bool.false_ne_true
      | render scene => rfl
      | report statistics => rfl
  | _ => exact fun n hn => absurd hn List.not_mem_nil

end Quiet

/-- No directive but MakeNamedMedium warns of a moving medium. -/
theorem quiet_interpretAt (reach : Reachable setup b) {d : LocatedDirective α}
    (other : d.directive.isMedium = false) :
    ∀ n ∈ ((interpretAt setup d).run b).notices, n.isMotionWarning = false := by
  by_cases plain : d.directive.scopeRole = .plain
  · cases placed : misplaced? b.phase d.directive with
    | none =>
      rw [run_interpretAt_of_placed placed]
      exact (effect_perform setup d.loc plain).quiet other
    | some text =>
      rw [run_interpretAt_of_misplaced placed]
      intro n hn
      rw [List.mem_singleton.1 hn]
      rfl
  · exact (outcome_interpretAt reach d).quiet plain

/-- A directive that is not accepted gives no warning at all. -/
theorem quiet_of_not_accepts (reach : Reachable setup b) {d : LocatedDirective α}
    (refused : accepts setup b d = false) :
    ∀ n ∈ ((interpretAt setup d).run b).notices, n.isMotionWarning = false := by
  intro n hn
  apply Bool.eq_false_iff.2
  intro motion
  have warning := isWarning_of_isMotionWarning motion
  rw [(same_of_not_accepts reach refused).2 n hn] at warning
  exact Bool.false_ne_true warning

/-- The warnings of one directive. -/
theorem filter_notices (reach : Reachable setup b) (d : LocatedDirective α) :
    ((interpretAt setup d).run b).notices.filter (·.isMotionWarning) =
      motionWarningsAt setup b d := by
  unfold motionWarningsAt
  cases medium : d.directive.isMedium with
  | false => exact filter_of_quiet (quiet_interpretAt reach medium)
  | true =>
    cases accepted : accepts setup b d with
    | false => exact filter_of_quiet (quiet_of_not_accepts reach accepted)
    | true =>
      obtain ⟨directive, loc⟩ := d
      obtain ⟨name, params, rfl⟩ := Directive.isMedium_iff.1 medium
      rw [run_interpretAt_makeNamedMedium_of_accepts accepted]
      unfold mediumWarnings
      cases b.graphics.ctm.moves <;> rfl

/-- The warnings of a run: one for every medium that is accepted while the current transform
moves. -/
theorem filter_noticesOf (reach : Reachable setup b) (ds : List (LocatedDirective α)) :
    (noticesOf setup b ds).filter (·.isMotionWarning) = motionWarnings setup b ds := by
  induction ds generalizing b with
  | nil => rfl
  | cons d rest ih =>
    rw [noticesOf, List.filter_append, filter_notices reach d, ih (reach.next d), motionWarnings]

/-! ## Motion -/

variable [LawfulEquality α]

/-- Where the hash respects equality, what a pair finds moves exactly when the pair does. -/
theorem FindsPair.moves_eq (respects : Respects setup.hashOf) {p : TransformPool α}
    {pair : TransformPair α} {t : TimedTransform α} (found : FindsPair setup p pair t) :
    t.moves = pair.moves ∧ (t.opening = t.closing ↔ pair.moves = false) := by
  obtain ⟨slots, handles⟩ := TransformPool.Finds.slot_eq_iff respects found.1 found.2
  constructor
  · rw [TimedTransform.moves, TransformPair.moves, bne, Bool.not_inj_iff, Bool.eq_iff_iff,
      beq_iff_eq]
    exact slots
  · rw [TransformPair.moves, Bool.not_eq_false']
    exact handles

/-- After any directives in turn, failed or not. There is one warning about a moving medium for
every MakeNamedMedium directive that is accepted while the current transform moves, at its place and
in the order of the directives, and there are no others. But an accepted MakeNamedMedium directive
records, for good, the handles of both transforms to render space of that moment. So the medium
moves exactly when these two differ, whether there was a warning or not. -/
theorem media_move_as_their_transforms_do (respects : Respects setup.hashOf)
    (fresh : Fresh start) (ds : List (LocatedDirective α)) :
    (noticesOf setup start ds).filter (·.isMotionWarning) = motionWarnings setup start ds ∧
      ∀ before name params loc rest,
        ds = before ++ ⟨.makeNamedMedium name params, loc⟩ :: rest →
        let c := after setup start before
        accepts setup c ⟨.makeNamedMedium name params, loc⟩ = true →
        ∃ m, (after setup start ds).scene.media.find? name = some m ∧
          m.entity = c.worldEntity .medium name params loc ∧
          FindsPair setup (after setup start ds).pool c.renderFromObject m.renderFromObject ∧
          m.renderFromObject.moves = c.renderFromObject.moves ∧
          (m.renderFromObject.opening = m.renderFromObject.closing ↔
            c.renderFromObject.moves = false) := by
  have reach : Reachable setup start := .fresh fresh
  refine ⟨filter_noticesOf reach ds, ?_⟩
  rintro before name params loc rest rfl c accepted
  let d : LocatedDirective α := ⟨.makeNamedMedium name params, loc⟩
  let placed := placedMedium setup loc name params c
  have here : Reachable setup (next setup c d) := (reach.after before).next d
  have left : next setup c d = _ :=
    congrArg Outcome.state (run_interpretAt_makeNamedMedium_of_accepts accepted)
  have recorded : (next setup c d).scene.media.find? name = some placed.1 :=
    (next_makeNamedMedium_of_accepts accepted).2
  have found : FindsPair setup (next setup c d).pool c.renderFromObject
      placed.1.renderFromObject := by
    rw [left]
    exact findsPair_internedPair setup c c.renderFromObject
  -- what is recorded stays in the scene, and what was looked up stays in the pool
  rw [after_append, after_cons]
  refine ⟨placed.1, Registry.find?_of_prefix (grows_after here rest).media recorded, rfl,
    found.mono (entries_pool_after here rest), ?_⟩
  exact found.moves_eq respects

/-- Control: a medium that moves, one that stands still, and a third that is refused because its
name is taken. -/
theorem media_move_as_their_transforms_do_three_media :
    let setup : BuildSetup Float := ⟨standardHash, .absent⟩
    let start : Builder Float := initial .defaults
    let ds : List (LocatedDirective Float) :=
      [⟨.makeNamedMedium "air" [], .unknown⟩, ⟨.activeTransform .endTime, .unknown⟩,
        ⟨.translate ⟨1, 0, 0⟩, .unknown⟩, ⟨.makeNamedMedium "fog" [], .unknown⟩,
        ⟨.makeNamedMedium "fog" [], .unknown⟩]
    let c := after setup start (ds.take 3)
    LawfulEquality Float ∧ Respects setup.hashOf ∧ Fresh start ∧
      accepts setup c ⟨.makeNamedMedium "fog" [], .unknown⟩ = true ∧
      ((noticesOf setup start ds).filter (·.isMotionWarning)).length = 1 ∧
      ∃ m, (after setup start ds).scene.media.find? "fog" = some m ∧
        m.renderFromObject.moves = c.renderFromObject.moves := by
  intro setup start ds c
  have respects : Respects setup.hashOf := respects_standardHash
  have accepted : accepts setup c ⟨.makeNamedMedium "fog" [], .unknown⟩ = true := by decide +kernel
  obtain ⟨warnings, media⟩ :=
    media_move_as_their_transforms_do respects (fresh_initial .defaults) ds
  obtain ⟨m, found, -, -, moves, -⟩ := media (ds.take 3) "fog" [] .unknown (ds.drop 4) rfl accepted
  refine ⟨inferInstance, respects, fresh_initial _, accepted, ?_, m, found, moves⟩
  rw [warnings]
  decide +kernel

/-- A medium moves although it was said that its motion is ignored. The current transform moves by
one unit, so the only notice of the run is the warning that the transform for the opening time alone
is used; but the medium has two handles for two different transforms. And with a camera that moves,
a medium under a current transform that stands still moves, and there is no notice at all. -/
theorem media_move_in_spite_of_warning :
    let setup : BuildSetup Float := ⟨standardHash, .absent⟩
    let start : Builder Float := initial .defaults
    let warned : List (LocatedDirective Float) :=
      [⟨.activeTransform .endTime, .unknown⟩, ⟨.translate ⟨1, 0, 0⟩, .unknown⟩,
        ⟨.makeNamedMedium "fog" [], .unknown⟩, ⟨.worldBegin, .unknown⟩, ⟨.worldEnd, .unknown⟩]
    let unwarned : List (LocatedDirective Float) :=
      [⟨.activeTransform .endTime, .unknown⟩, ⟨.translate ⟨1, 0, 0⟩, .unknown⟩,
        ⟨.camera "perspective" [], .unknown⟩, ⟨.worldBegin, .unknown⟩,
        ⟨.makeNamedMedium "fog" [], .unknown⟩, ⟨.worldEnd, .unknown⟩]
    ((noticesOf setup start warned).map (·.isMotionWarning) = [true] ∧
      (after setup start warned).scene.media.size = 1 ∧
      ∀ e ∈ (after setup start warned).scene.media.entries,
        e.2.renderFromObject.opening.slot ≠ e.2.renderFromObject.closing.slot ∧
        e.2.renderFromObject.moves = true) ∧
    (noticesOf setup start unwarned).isEmpty = true ∧
      (after setup start unwarned).scene.media.size = 1 ∧
      ∀ e ∈ (after setup start unwarned).scene.media.entries,
        e.2.renderFromObject.moves = true := by
  decide +kernel

end Builder

end SceneScript
