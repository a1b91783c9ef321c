import SceneScript.Proofs.Builder.Lockstep
import SceneScript.Scalar.Double

/-!
# Scopes restore what they save

A scope ends with the End that matches its Begin: the directives between them open and close as
many scopes as they like, but none that was open before, and none of them is WorldEnd. `Enclosed`
reads this off the directives alone, by counting.

Whatever stands between them, an attribute or object scope leaves the graphics state as it was
before the Begin, and a transform scope leaves the transforms and active slots as they were there
and all else as it was before the End (`scope_restores`). The proof follows the stacks: directives
that are enclosed only ever touch what they put on top of them (`Within`).
-/

set_option autoImplicit false

namespace SceneScript

/-! ## Matching -/

/-- How many scopes are open after a directive, counted from some point on; `none` if it closes a
scope from before that point. -/
def Directive.depthAfter? {α : Type} (d : Directive α) (depth : Nat) : Option Nat :=
  match d.scopeRole, depth with
  | .opens _, n => some (n + 1)
  | .closes _, 0 => none
  | .closes _, n + 1 => some n
  | .endsWorld, _ => none
  | .plain, n | .startsWorld, n => some n

namespace Builder

variable {α : Type}

/-- How many scopes are open after directives in turn, counted from some point on. -/
def depthAfter? : Nat → List (LocatedDirective α) → Option Nat
  | n, [] => some n
  | n, d :: rest => (d.directive.depthAfter? n).bind fun m => depthAfter? m rest

/-- Every scope that these directives open, they close again, and they close no other. -/
def Enclosed (ds : List (LocatedDirective α)) : Prop :=
  depthAfter? 0 ds = some 0

/-! ## What enclosed directives leave alone -/

/-- A builder that has opened the scopes `inner` since the time of `base`, and whose stacks are
those of `base` below what these scopes saved. -/
structure Within (base : Builder α) (inner : List (Scope α)) (b : Builder α) : Prop where
  world : b.phase = .world
  scopes : b.openScopes.scopes = inner ++ base.openScopes.scopes
  graphics : b.savedGraphics.drop
    (Scope.countKind .attributes inner + Scope.countKind .object inner) = base.savedGraphics
  transforms : b.savedTransforms.drop (Scope.countKind .transforms inner) = base.savedTransforms

namespace Within

variable {base b : Builder α} {inner : List (Scope α)}

theorem refl (world : b.phase = .world) : Within b [] b :=
  ⟨world, rfl, rfl, rfl⟩

theorem of_sameScopes {b' : Builder α} (within : Within base inner b) (same : SameScopes b b') :
    Within base inner b' where
  world := same.phase.trans within.world
  scopes := by rw [same.openScopes]; exact within.scopes
  graphics := by rw [same.savedGraphics]; exact within.graphics
  transforms := by rw [same.savedTransforms]; exact within.transforms

variable [Scalar α] {setup : BuildSetup α} {loc : Location α} {d : Directive α}
  {o : Outcome (BuildError α) (Builder α) (BuildNotice α) Unit}

/-- A Begin adds one scope on top. -/
theorem opens {kind : ScopeKind} (within : Within base inner b)
    (outcome : StepOutcome setup loc b d o) (role : d.scopeRole = .opens kind)
    (done : o.result = .ok ()) : Within base (⟨kind, loc⟩ :: inner) o.state := by
  obtain ⟨world, scopes, graphics, transforms⟩ := outcome.of_opens role within.world done
  refine ⟨world, by rw [scopes, within.scopes]; rfl, ?_, ?_⟩
  -- the new scope counts for the stack on which it saved
  · rw [← within.graphics, graphics]
    cases kind with
    | transforms => simp [ScopeKind.savesGraphics]
    | attributes => simp [ScopeKind.savesGraphics, Nat.add_right_comm _ 1]
    | object => simp [ScopeKind.savesGraphics, ← Nat.add_assoc]
  · rw [← within.transforms, transforms]
    cases kind <;> simp [ScopeKind.savesGraphics]

/-- An End takes away the topmost scope. -/
theorem closes {kind : ScopeKind} {s : Scope α} (within : Within base (s :: inner) b)
    (outcome : StepOutcome setup loc b d o) (role : d.scopeRole = .closes kind)
    (done : o.result = .ok ()) : Within base inner o.state := by
  obtain ⟨t, rest, scopes, same, left⟩ := outcome.of_closes role within.world done
  have tops := scopes.symm.trans within.scopes
  rw [List.cons_append, List.cons.injEq] at tops
  obtain ⟨rfl, rfl⟩ := tops
  subst same
  rw [left]
  refine ⟨by simpa using within.world, by simp, ?_, ?_⟩
  · rw [← within.graphics, savedGraphics_leave]
    cases h : t.kind <;> simp [h, ScopeKind.savesGraphics, ← Nat.add_assoc, Nat.add_right_comm]
  · rw [← within.transforms, savedTransforms_leave]
    cases h : t.kind <;> simp [h, ScopeKind.savesGraphics]

/-- A directive that is no Begin or End leaves the scopes alone. -/
theorem keeps (within : Within base inner b) (outcome : StepOutcome setup loc b d o)
    (role : d.scopeRole = .plain ∨ d.scopeRole = .startsWorld) : Within base inner o.state := by
  cases outcome with
  | ignored _ => exact within
  | refused _ _ => exact within
  | plain _ _ same _ => exact within.of_sameScopes same
  -- WorldBegin is ignored in the world block, like a directive that is void
  | worldBegin options => exact absurd (within.world.symm.trans options) (by simp)
  | closed closes _ _ => simp [closes] at role
  | _ => simp [Directive.scopeRole] at role

/-- A directive that closes no scope of `base` stays within it. -/
theorem step {m : Nat} (within : Within base inner b) (outcome : StepOutcome setup loc b d o)
    (done : o.result = .ok ()) (depth : d.depthAfter? inner.length = some m) :
    ∃ inner', inner'.length = m ∧ Within base inner' o.state := by
  cases role : d.scopeRole with
  | opens kind =>
    simp only [Directive.depthAfter?, role, Option.some.injEq] at depth
    exact ⟨⟨kind, loc⟩ :: inner, depth, within.opens outcome role done⟩
  | closes kind =>
    cases inner with
    | nil => simp [Directive.depthAfter?, role] at depth
    | cons s rest =>
      simp only [Directive.depthAfter?, role, List.length_cons, Option.some.injEq] at depth
      exact ⟨rest, depth, within.closes outcome role done⟩
  | endsWorld => simp [Directive.depthAfter?, role] at depth
  | plain =>
    simp only [Directive.depthAfter?, role, Option.some.injEq] at depth
    exact ⟨inner, depth, within.keeps outcome (Or.inl role)⟩
  | startsWorld =>
    simp only [Directive.depthAfter?, role, Option.some.injEq] at depth
    exact ⟨inner, depth, within.keeps outcome (Or.inr role)⟩

/-- Directives that close no scope of `base`, and do not fail, stay within it. -/
theorem run {m : Nat} {ds : List (LocatedDirective α)} (reach : Reachable setup b)
    (within : Within base inner b) (done : ((carryOut setup ds).run b).result = .ok ())
    (depth : depthAfter? inner.length ds = some m) :
    ∃ inner', inner'.length = m ∧ Within base inner' (after setup b ds) := by
  -- one directive after another: each of them moves `inner` on, and the depth counts along
  unfold carryOut at done
  induction ds generalizing b inner with
  | nil => exact ⟨inner, Option.some.inj depth, within⟩
  | cons d rest ih =>
    obtain ⟨first, others⟩ := (Action.finished_forEach_cons _).1 done
    obtain ⟨n, stepped, counted⟩ := Option.bind_eq_some_iff.1 depth
    obtain ⟨inner', rfl, within'⟩ := within.step (outcome_interpretAt reach d) first stepped
    exact ih (reach.next d) within' others counted

end Within

/-! ## What the End puts back -/

section Restoring

theorem graphics_leave_of_savedGraphics {b : Builder α} {kind : ScopeKind} {g : GraphicsState α}
    {saved : List (GraphicsState α)} (rest : List (Scope α)) (saves : kind.savesGraphics = true)
    (top : b.savedGraphics = g :: saved) : (b.leave rest kind).graphics = g := by
  cases kind with
  | transforms => exact absurd saves (by simp [ScopeKind.savesGraphics])
  | attributes => simp [leave, restore, top]
  | object => simp [leave, restore, top]

theorem graphics_leave_of_savedTransforms {b : Builder α} {t : SavedTransforms α}
    {saved : List (SavedTransforms α)} (rest : List (Scope α))
    (top : b.savedTransforms = t :: saved) : (b.leave rest .transforms).graphics =
      { b.graphics with ctm := t.ctm, active := t.active } := by
  simp [leave, restore, top]

end Restoring

variable [Scalar α] {setup : BuildSetup α} {b : Builder α}

/-- Enclosed directives that do not fail leave the block, the open scopes and the stacks as they
were. -/
theorem within_of_enclosed {body : List (LocatedDirective α)} (reach : Reachable setup b)
    (world : b.phase = .world) (enclosed : Enclosed body)
    (done : ((carryOut setup body).run b).result = .ok ()) :
    Within b [] (after setup b body) := by
  obtain ⟨inner, empty, within⟩ := (Within.refl world).run reach done enclosed
  rw [List.length_eq_zero_iff] at empty
  rw [empty] at within
  exact within

section Scope

variable (reach : Reachable setup b) (world : b.phase = .world) {kind : ScopeKind}
  {first last : LocatedDirective α} {body : List (LocatedDirective α)}
  (opens : first.directive.scopeRole = .opens kind) (enclosed : Enclosed body)

include reach world opens enclosed

/-- Before the End, what the Begin saved is on top of its stack again. -/
theorem saved_before_end (done : ((carryOut setup (first :: body)).run b).result = .ok ()) :
    let inside := ((carryOut setup (first :: body)).run b).state
    Reachable setup inside ∧ inside.phase = .world ∧
      (kind.savesGraphics = true → inside.savedGraphics = b.graphics :: b.savedGraphics) ∧
      (kind.savesGraphics = false →
        inside.savedTransforms = ⟨b.graphics.ctm, b.graphics.active⟩ :: b.savedTransforms) := by
  intro inside
  obtain ⟨begun, ran⟩ := (Action.finished_forEach_cons (interpretAt setup)).1 done
  obtain ⟨world', -, graphics, transforms⟩ :=
    (outcome_interpretAt reach first).of_opens opens world begun
  have within := within_of_enclosed (reach.next first) world' enclosed ran
  have same : inside = after setup (next setup b first) body := state_carryOut setup done
  have reach' : Reachable setup inside := by
    rw [same]
    exact (reach.next first).after body
  rw [← same] at within
  refine ⟨reach', within.world, fun saves => ?_, fun saves => ?_⟩
  · rw [if_pos saves] at graphics
    exact within.graphics.trans graphics
  · rw [if_neg (by simp [saves])] at transforms
    exact within.transforms.trans transforms

/-- A scope of attributes or an object, in the world block and with anything in it, gives back the
graphics state from before its Begin. A scope of transforms gives back the transforms and active
slots from before its Begin, with the rest of the graphics state as it was before its End. -/
theorem scope_restores (closes : last.directive.scopeRole = .closes kind)
    (done : ((carryOut setup (first :: body ++ [last])).run b).result = .ok ()) :
    let inside := ((carryOut setup (first :: body)).run b).state.graphics
    let outside := ((carryOut setup (first :: body ++ [last])).run b).state.graphics
    (kind ≠ .transforms → outside = b.graphics) ∧
      (kind = .transforms →
        outside = { inside with ctm := b.graphics.ctm, active := b.graphics.active }) := by
  intro inside outside
  obtain ⟨done', ended⟩ := (Action.finished_forEach_append (interpretAt setup)).1 done
  obtain ⟨ended, -⟩ := (Action.finished_forEach_cons (interpretAt setup)).1 ended
  obtain ⟨reach', world', graphics, transforms⟩ :=
    saved_before_end reach world opens enclosed done'
  obtain ⟨s, rest, -, -, left⟩ :=
    (outcome_interpretAt reach' last).of_closes closes world' ended
  -- the End goes back through the topmost scope, which is the one of the Begin
  have final : outside = (Builder.leave ((carryOut setup (first :: body)).run b).state rest
      kind).graphics := by
    rw [← left]
    have states := state_carryOut setup done
    rw [after_append, ← state_carryOut setup done'] at states
    exact congrArg Builder.graphics states
  rw [final]
  refine ⟨fun other => ?_, fun same => ?_⟩
  · have saves : kind.savesGraphics = true := by
      cases kind <;> first | rfl | exact absurd rfl other
    exact graphics_leave_of_savedGraphics rest saves (graphics saves)
  · subst same
    exact graphics_leave_of_savedTransforms rest (transforms rfl)

end Scope

/-- Control: a scope of transforms within one of attributes. The former keeps the material that is
named in it, the latter gives up everything. -/
theorem scope_restores_nested :
    let setup : BuildSetup Float := ⟨standardHash, .absent⟩
    let b := after setup (initial .defaults)
      [⟨.worldBegin, .unknown⟩, ⟨.attributeEnd, .unknown⟩, ⟨.namedMaterial "clay", .unknown⟩]
    let body : List (LocatedDirective Float) :=
      [⟨.activeTransform .startTime, .unknown⟩, ⟨.attributeBegin, .unknown⟩,
        ⟨.reverseOrientation, .unknown⟩, ⟨.attributeEnd, .unknown⟩,
        ⟨.namedMaterial "gold", .unknown⟩]
    let first : LocatedDirective Float := ⟨.transformBegin, .unknown⟩
    let last : LocatedDirective Float := ⟨.transformEnd, .unknown⟩
    let outer : List (LocatedDirective Float) := ⟨.attributeBegin, .unknown⟩ ::
      (first :: body ++ [last]) ++ [⟨.attributeEnd, .unknown⟩]
    Reachable setup b ∧
      ((carryOut setup (first :: body ++ [last])).run b).state.graphics =
        { ((carryOut setup (first :: body)).run b).state.graphics with
          ctm := b.graphics.ctm, active := b.graphics.active } ∧
      ((carryOut setup (first :: body)).run b).state.graphics.material = .named "gold" ∧
      ((carryOut setup outer).run b).state.graphics = b.graphics := by
  intro setup b body first last outer
  have reach : Reachable setup b := (Reachable.fresh (fresh_initial _)).after _
  have done : ((carryOut setup (first :: body ++ [last])).run b).result = .ok () := by cbv
  have done' : ((carryOut setup outer).run b).result = .ok () := by cbv
  have gold : ((carryOut setup (first :: body)).run b).state.graphics.material =
      .named "gold" := by cbv
  have enclosed : Enclosed body := rfl
  have enclosed' : Enclosed (first :: body ++ [last]) := rfl
  have opens : first.directive.scopeRole = .opens .transforms := rfl
  have closes : last.directive.scopeRole = .closes .transforms := rfl
  obtain ⟨-, transforms⟩ := scope_restores reach rfl opens enclosed closes done
  obtain ⟨attributes, -⟩ := scope_restores reach rfl rfl enclosed' rfl done'
  exact ⟨reach, transforms rfl, gold, attributes (by simp)⟩

end Builder

end SceneScript
