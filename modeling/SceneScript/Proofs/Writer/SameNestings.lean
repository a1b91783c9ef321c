import SceneScript.Proofs.Builder.Lockstep
import SceneScript.Proofs.Writer.Outcomes

/-!
# The builder and the writer accept the same nestings

The builder checks more than the writer does: where a directive stands, what its arguments are, and
at ObjectEnd first whether an object definition is open. But as long as it does not fail, and Begins
and Ends stand in the world block, both keep the same record of open scopes, and from then on they
refuse the same Ends (`same_nestings`). That an object definition is open exactly while an object
scope is makes the two checks of ObjectEnd agree.
-/

set_option autoImplicit false

namespace SceneScript

/-- Whether a directive is the Begin or the End of a scope. -/
def Directive.IsScope {α : Type} (d : Directive α) : Prop :=
  (∃ kind, d.scopeRole = .opens kind) ∨ ∃ kind, d.scopeRole = .closes kind

variable {α : Type} {b : Builder α} {d : LocatedDirective α}

/-! ## Ends in the builder -/

namespace Builder

theorem run_closeScope_of_error {kind : ScopeKind} {loc : Location α} {reason : ScopeError α}
    (pop : b.openScopes.pop kind = .error reason) :
    (closeScope kind loc).run b = ⟨.error ⟨loc, .scope reason⟩, b, []⟩ := by
  unfold closeScope
  rw [Action.run_get_bind, pop]
  rfl

variable [Scalar α] {setup : BuildSetup α}

/-- A run whose Begins and Ends all come in the world block. -/
def ScopesInWorld (setup : BuildSetup α) (b : Builder α) : List (LocatedDirective α) → Prop
  | [] => True
  | d :: rest => (d.directive.IsScope → b.phase = .world) ∧
      ScopesInWorld setup (next setup b d) rest

/-- An End in the world block is carried out, not ignored. -/
theorem run_interpretAt_of_world (world : b.phase = .world) (scope : d.directive.IsScope) :
    (interpretAt setup d).run b = (perform setup d.loc d.directive).run b :=
  run_interpretAt_of_placed (by rw [world]; exact misplaced?_world_of_scope scope)

/-- AttributeEnd and TransformEnd fail for the reason that there is no such scope to close. -/
theorem result_of_unmatched {kind : ScopeKind} {reason : ScopeError α} (world : b.phase = .world)
    (closes : d.directive.scopeRole = .closes kind) (other : kind ≠ .object)
    (pop : b.openScopes.pop kind = .error reason) :
    ((interpretAt setup d).run b).result = .error ⟨d.loc, .scope reason⟩ := by
  rw [run_interpretAt_of_world world (Or.inr ⟨kind, closes⟩)]
  obtain ⟨directive, loc⟩ := d
  have fails : (closeScope kind loc).run b = _ := run_closeScope_of_error pop
  cases directive <;> simp [Directive.scopeRole] at closes <;> subst closes
  · unfold perform performAttributeEnd
    rw [Action.run_bind_of_eq_error fails]
  · unfold perform performTransformEnd
    rw [Action.run_bind_of_eq_error fails]
  · exact absurd rfl other

/-- In the world block of a reachable builder, an End fails if and only if the innermost scope is
not of its kind. -/
theorem fails_iff_of_closes {kind : ScopeKind} (reach : Reachable setup b)
    (world : b.phase = .world) (closes : d.directive.scopeRole = .closes kind) :
    (∃ e, ((interpretAt setup d).run b).result = .error e) ↔
      ∃ reason, b.openScopes.pop kind = .error reason := by
  have lock := lockstep_of_reachable reach
  constructor
  · rintro ⟨e, failed⟩
    cases pop : b.openScopes.pop kind with
    | error reason => exact ⟨reason, rfl⟩
    | ok closed =>
      obtain ⟨s, rest⟩ := closed
      obtain ⟨scopes, same⟩ := OpenScopes.pop_eq_ok_iff.1 pop
      rw [run_interpretAt_of_world world (Or.inr ⟨kind, closes⟩)] at failed
      obtain ⟨directive, loc⟩ := d
      cases directive <;> simp [Directive.scopeRole] at closes <;> subst closes <;>
        unfold perform at failed
      · rw [run_performAttributeEnd lock scopes same] at failed
        cases failed
      · rw [run_performTransformEnd lock scopes same] at failed
        cases failed
      · -- an object scope is open, so an object definition is
        obtain ⟨definition, opened⟩ := Option.isSome_iff_exists.1
          (lock.openObject_iff.2 ⟨s, by simp [scopes], same⟩)
        rw [run_performObjectEnd lock scopes same opened] at failed
        cases failed
  · rintro ⟨reason, pop⟩
    cases result : ((interpretAt setup d).run b).result with
    | error e => exact ⟨e, rfl⟩
    | ok v =>
      obtain ⟨s, rest, scopes, same, -⟩ :=
        (outcome_interpretAt reach d).of_closes closes world result
      have closed : b.openScopes.pop kind = .ok (s, ⟨rest⟩) :=
        OpenScopes.pop_eq_ok_iff.2 ⟨scopes, same⟩
      rw [closed] at pop
      cases pop

/-- A directive that is no Begin and no End closes all scopes if it is WorldEnd, and otherwise
leaves them alone. -/
theorem StepOutcome.openScopes_of_not_scope {loc : Location α} {d : Directive α}
    {o : Outcome (BuildError α) (Builder α) (BuildNotice α) Unit} (lock : Lockstep b)
    (outcome : StepOutcome setup loc b d o) (other : ¬ d.IsScope) (done : o.result = .ok ()) :
    o.state.openScopes = d.moveScopes loc b.openScopes := by
  cases outcome with
  | ignored why =>
    cases role : d.scopeRole with
    | opens kind => exact absurd (Or.inl ⟨kind, role⟩) other
    | closes kind => exact absurd (Or.inr ⟨kind, role⟩) other
    | plain | startsWorld => simp [Directive.moveScopes, role]
    | endsWorld =>
      -- out of the world block no scope is open
      have outside : b.phase ≠ .world := by
        intro world
        rcases why with misplaced | void
        · cases d <;> simp [Directive.scopeRole] at role
          rw [world] at misplaced
          cases misplaced
        · rw [Directive.scopeRole_of_isVoid void] at role
          cases role
      rw [Directive.moveScopes, role]
      exact congrArg OpenScopes.mk (lock.outsideWorld outside)
  | refused _ _ => cases done
  | plain plain _ same _ =>
    rw [Directive.moveScopes, plain]
    exact same.openScopes
  | worldBegin _ => rfl
  | attributeBegin _ => exact absurd (Or.inl ⟨_, rfl⟩) other
  | transformBegin _ => exact absurd (Or.inl ⟨_, rfl⟩) other
  | objectBegin _ _ _ => exact absurd (Or.inl ⟨_, rfl⟩) other
  | closed closes _ _ => exact absurd (Or.inr ⟨_, closes⟩) other
  | worldEnd _ => exact congrArg OpenScopes.mk lock.stacks_endWorld.1

end Builder

/-! ## Both side by side -/

namespace Writer

variable [Scalar α] {setup : BuildSetup α}

/-- A directive that the builder carries out or ignores is accepted by the writer, and leaves both
with the same open scopes. -/
theorem next_eq_openScopes (reach : Builder.Reachable setup b)
    (inWorld : d.directive.IsScope → b.phase = .world)
    (done : ((Builder.interpretAt setup d).run b).result = .ok ()) :
    accepts false b.openScopes d = true ∧
      next false b.openScopes d = (Builder.next setup b d).openScopes := by
  have outcome := Builder.outcome_interpretAt reach d
  cases role : d.directive.scopeRole with
  | opens kind =>
    have accepted : accepts false b.openScopes d = true :=
      accepts_of_not_closes (by simp [role]) (Or.inl rfl)
    obtain ⟨-, scopes, -⟩ := outcome.of_opens role (inWorld (Or.inl ⟨kind, role⟩)) done
    refine ⟨accepted, ?_⟩
    rw [next_of_accepts accepted, Directive.moveScopes, role]
    exact congrArg OpenScopes.mk scopes.symm
  | closes kind =>
    obtain ⟨s, rest, scopes, same, state⟩ :=
      outcome.of_closes role (inWorld (Or.inr ⟨kind, role⟩)) done
    have accepted : accepts false b.openScopes d = true :=
      (accepts_iff_of_closes role).2 ⟨s, ⟨rest⟩, OpenScopes.pop_eq_ok_iff.2 ⟨scopes, same⟩⟩
    refine ⟨accepted, ?_⟩
    rw [next_of_accepts accepted, Directive.moveScopes, role, Builder.next, state, scopes]
    simp
  | endsWorld | startsWorld | plain =>
    have other : ¬ d.directive.IsScope := by
      rintro (⟨kind, opens⟩ | ⟨kind, closes⟩) <;> simp_all
    have accepted : accepts false b.openScopes d = true :=
      accepts_of_not_closes (by simp [role]) (Or.inl rfl)
    refine ⟨accepted, ?_⟩
    rw [next_of_accepts accepted, Builder.next,
      outcome.openScopes_of_not_scope (Builder.lockstep_of_reachable reach) other done]

/-- Both run side by side as long as the builder does not fail. -/
theorem carryOut_agrees {ds : List (LocatedDirective α)} (reach : Builder.Reachable setup b)
    (inWorld : Builder.ScopesInWorld setup b ds)
    (done : ((Builder.carryOut setup ds).run b).result = .ok ()) :
    ((carryOut false ds).run b.openScopes).result = .ok () ∧
      ((carryOut false ds).run b.openScopes).state = (Builder.after setup b ds).openScopes := by
  induction ds generalizing b with
  | nil => exact ⟨rfl, rfl⟩
  | cons d rest ih =>
    obtain ⟨first, others⟩ := (Action.finished_forEach_cons _).1 done
    obtain ⟨accepted, next⟩ := next_eq_openScopes reach inWorld.1 first
    obtain ⟨finished, state⟩ := ih (reach.next d) inWorld.2 others
    rw [run_carryOut_cons accepted, next]
    exact ⟨finished, state⟩

/-- An End fails in the writer if and only if the innermost scope is not of its kind, and for that
reason. -/
theorem result_of_closes {kind : ScopeKind} {o : OpenScopes α}
    (closes : d.directive.scopeRole = .closes kind) (e : WriteError α) :
    ((interpretAt false d).run o).result = .error e ↔
      ∃ reason, o.pop kind = .error reason ∧ e = ⟨d.loc, .scope reason⟩ := by
  have cause {e : WriteError α} (failed : ((interpretAt false d).run o).result = .error e) :
      ∃ reason, o.pop kind = .error reason ∧ e = ⟨d.loc, .scope reason⟩ := by
    obtain ⟨cause, -⟩ := run_interpretAt_of_error failed
    cases cause with
    | scope closes' pop =>
      obtain rfl : kind = _ := by simpa [closes] using closes'
      exact ⟨_, pop, rfl⟩
    | upgrade _ upgrades _ => cases upgrades
  refine ⟨cause, ?_⟩
  rintro ⟨reason, pop, rfl⟩
  have refused : accepts false o d = false := by
    rw [← Bool.not_eq_true, accepts_iff_of_closes closes, pop]
    simp
  obtain ⟨e', failed⟩ := not_accepts_iff.1 refused
  obtain ⟨reason', pop', rfl⟩ := cause failed
  rw [pop] at pop'
  cases pop'
  exact failed

/-- With the same scopes open, the builder in its world block and the writer refuse the same
Ends. -/
theorem ends_agree {kind : ScopeKind} (reach : Builder.Reachable setup b)
    (world : b.phase = .world) (closes : d.directive.scopeRole = .closes kind) :
    ((∃ e, ((Builder.interpretAt setup d).run b).result = .error e) ↔
      ∃ e, ((interpretAt false d).run b.openScopes).result = .error e) ∧
    (kind ≠ .object → ∀ e e', ((Builder.interpretAt setup d).run b).result = .error e →
      ((interpretAt false d).run b.openScopes).result = .error e' → e.text = e'.text) := by
  refine ⟨?_, fun other e e' failed failed' => ?_⟩
  · rw [Builder.fails_iff_of_closes reach world closes]
    constructor
    · rintro ⟨reason, pop⟩
      exact ⟨_, (result_of_closes closes _).2 ⟨reason, pop, rfl⟩⟩
    · rintro ⟨e, failed⟩
      obtain ⟨reason, pop, -⟩ := (result_of_closes closes e).1 failed
      exact ⟨reason, pop⟩
  · obtain ⟨reason, pop, rfl⟩ := (result_of_closes closes e').1 failed'
    rw [Builder.result_of_unmatched world closes other pop] at failed
    obtain rfl := Except.error.inj failed
    rfl

/-- Let a run of directives go through a fresh builder and through a fresh writer that is not
upgrading, with all Begins and Ends in the world block. If the builder has not failed, then neither
has the writer, and both have the same scopes open, with the same places and in the same order. In
the world block, both then refuse the same Ends, and AttributeEnd and TransformEnd with the same
text. -/
theorem same_nestings (fresh : Builder.Fresh b) {ds : List (LocatedDirective α)}
    (inWorld : Builder.ScopesInWorld setup b ds)
    (done : ((Builder.carryOut setup ds).run b).result = .ok ()) :
    let built := ((Builder.carryOut setup ds).run b).state
    let written := (carryOut false ds).run .none
    written.result = .ok () ∧ written.state = built.openScopes ∧
    ∀ (d : LocatedDirective α) (kind : ScopeKind), d.directive.scopeRole = .closes kind →
      built.phase = .world →
      ((∃ e, ((Builder.interpretAt setup d).run built).result = .error e) ↔
        ∃ e, ((interpretAt false d).run written.state).result = .error e) ∧
      (kind ≠ .object → ∀ e e', ((Builder.interpretAt setup d).run built).result = .error e →
        ((interpretAt false d).run written.state).result = .error e' → e.text = e'.text) := by
  intro built written
  have reach : Builder.Reachable setup b := .fresh fresh
  have start : b.openScopes = .none := by
    obtain ⟨settings, pool, rfl⟩ := fresh
    rfl
  have state : built = Builder.after setup b ds := Builder.state_carryOut setup done
  obtain ⟨finished, scopes⟩ := carryOut_agrees reach inWorld done
  rw [start] at finished scopes
  rw [← state] at scopes
  refine ⟨finished, scopes, fun d kind closes world => ?_⟩
  have scopes : written.state = built.openScopes := scopes
  rw [scopes]
  exact ends_agree (state ▸ reach.after ds) world closes

/-- Control: an object definition within an attribute scope, and a TransformEnd that both refuse. -/
theorem same_nestings_object_in_attributes :
    let setup : BuildSetup Float := ⟨standardHash, .absent⟩
    let b := Builder.initial .defaults
    let ds : List (LocatedDirective Float) :=
      [⟨.worldBegin, .unknown⟩, ⟨.attributeBegin, .unknown⟩, ⟨.objectBegin "lamp", .unknown⟩]
    let last : LocatedDirective Float := ⟨.transformEnd, .unknown⟩
    let built := ((Builder.carryOut setup ds).run b).state
    let written := (carryOut false ds).run .none
    written.state = built.openScopes ∧ written.state.depth = 2 ∧
      ∃ e e', ((Builder.interpretAt setup last).run built).result = .error e ∧
        ((interpretAt false last).run written.state).result = .error e' ∧ e.text = e'.text := by
  intro setup b ds last built written
  have inWorld : Builder.ScopesInWorld setup b ds :=
    ⟨fun scope => by simp [Directive.IsScope, Directive.scopeRole] at scope, fun _ => rfl,
      fun _ => rfl, trivial⟩
  obtain ⟨-, scopes, ends⟩ := same_nestings (Builder.fresh_initial .defaults) inWorld rfl
  obtain ⟨refuse, texts⟩ := ends last .transforms rfl rfl
  obtain ⟨e, failed⟩ : ∃ e, ((Builder.interpretAt setup last).run built).result = .error e :=
    ⟨_, rfl⟩
  obtain ⟨e', failed'⟩ := refuse.1 ⟨e, failed⟩
  exact ⟨scopes, rfl, e, e', failed, failed', texts (by simp) e e' failed failed'⟩

end Writer

end SceneScript
