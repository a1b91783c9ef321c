import SceneScript.Proofs.Builder.Placing
import SceneScript.Proofs.Geometry.BuiltTransforms

/-!
# Builders hold built transforms

Directives make transforms by the operations on transforms and by nothing else. So everything that a
builder keeps for later is built (`StateBuilt`): the current transforms and those that the open
scopes saved, the named coordinate systems, the move to render space, and the pool, if the pool that
the run was handed is (`stateBuilt_after`).
-/

set_option autoImplicit false

namespace SceneScript

variable {α : Type} [Scalar α]

theorem TransformPair.Built.of_mem {s : TransformPair α} (built : s.Built) {t : Transform α}
    (mem : t ∈ s.toList) : t.Built := by
  rcases List.mem_pair.1 mem with rfl | rfl
  · exact built .opening
  · exact built .closing

/-- What a directive does to a current transform it does by the operations on transforms. -/
theorem Directive.built_of_transformation {d : Directive α} {f : Transform α → Transform α}
    (does : d.transformation? = some f) {t : Transform α} (built : t.Built) : (f t).Built := by
  cases d <;> simp only [transformation?, Option.map_eq_some_iff, Option.some.injEq,
    reduceCtorEq] at does
  case identity => exact does ▸ .identity
  case translate d => exact does ▸ built.compose (.translate d)
  case scale s => exact does ▸ built.compose (.scale s)
  case rotate degrees axis => exact does ▸ built.compose (.rotate degrees axis)
  case lookAt eye look up =>
    obtain ⟨view, fits, rfl⟩ := does
    exact built.compose (.of_lookAt fits)
  case concatTransform entries =>
    obtain ⟨matrix, read, rfl⟩ := does
    exact built.compose (.of_ofColumns read)
  case transform entries =>
    obtain ⟨matrix, read, rfl⟩ := does
    exact .of_ofColumns read

namespace Builder

/-- Every transform that a builder keeps is built. -/
structure StateBuilt (b : Builder α) : Prop where
  current : b.graphics.ctm.Built
  savedGraphics : ∀ g ∈ b.savedGraphics, g.ctm.Built
  savedTransforms : ∀ s ∈ b.savedTransforms, s.ctm.Built
  named : ∀ name ctm, b.coordinateSystems.find? name = some ctm → ctm.Built
  renderFromWorld : b.renderFromWorld.Built
  pool : ∀ t ∈ b.pool.entries, t.Built

variable {setup : BuildSetup α} {b start : Builder α}

/-! ## Lookups -/

/-- The copy that a lookup returns is the transform itself, or it was in the pool. -/
theorem built_intern {p : TransformPool α} (entries : ∀ e ∈ p.entries, e.Built) {t : Transform α}
    (built : t.Built) : (p.intern setup.hashOf t).1.transform.Built := by
  rcases p.intern_cases setup.hashOf t with ⟨h, found, run⟩ | ⟨-, run⟩
  · rw [run]
    exact entries _ (List.mem_of_getElem? found.stored)
  · rw [run]
    exact built

/-- The move to the render space of a camera is a translation. -/
theorem built_renderFromWorldHere (b : Builder α) : b.renderFromWorldHere.Built :=
  .map fun _ => .translate _

namespace StateBuilt

theorem renderFromObject (built : StateBuilt b) : b.renderFromObject.Built :=
  .map fun slot => (built.renderFromWorld slot).compose (built.current slot)

/-- What a directive looks up is built. -/
theorem lookupsOf (built : StateBuilt b) (d : Directive α) :
    ∀ t ∈ lookupsOf setup b d, t.Built := by
  have object {t : Transform α} (mem : t ∈ b.renderFromObject.toList) : t.Built :=
    built.renderFromObject.of_mem mem
  cases d with
  | camera name params =>
    intro t mem
    rcases List.mem_append.1 mem with toRender | toWorld
    · refine TransformPair.Built.of_mem (.map fun slot => ?_) toRender
      exact ((built.current slot).compose (built_renderFromWorldHere b slot).inverse).inverse
    · exact built.current.inverse.of_mem toWorld
  | texture | makeNamedMedium | lightSource => exact fun t mem => object mem
  | shape name params =>
    simp only [Builder.lookupsOf]
    split
    · intro t mem
      rcases List.mem_append.1 mem with placed | identity
      · exact object placed
      · exact List.mem_singleton.1 identity ▸ .identity
    · -- the second lookup is of the inverse of a copy, which may be older than the transform
      intro t mem
      rcases List.mem_pair.1 mem with rfl | rfl
      · exact built.renderFromObject .opening
      · exact (built_intern built.pool (built.renderFromObject .opening)).inverse
  | objectInstance name =>
    have placed : b.renderFromInstance.Built :=
      .map fun slot => (built.renderFromObject slot).compose (built.renderFromWorld.inverse slot)
    simp only [Builder.lookupsOf]
    split
    · exact fun t mem => placed.of_mem mem
    · exact fun t mem => List.mem_singleton.1 mem ▸ placed .opening
  | _ => exact fun t mem => absurd mem List.not_mem_nil

theorem pool_next (built : StateBuilt b) (reach : Reachable setup b) (d : LocatedDirective α) :
    ∀ t ∈ (next setup b d).pool.entries, t.Built := by
  intro t mem
  obtain ⟨looked, which, pool⟩ := Builder.pool_next reach d
  rw [pool] at mem
  rcases TransformPool.mem_of_mem_afterLookups _ _ mem with before | now
  · exact built.pool t before
  · rcases which with rfl | rfl
    · exact absurd now List.not_mem_nil
    · exact built.lookupsOf d.directive t now

/-! ## Scopes -/

theorem restore (built : StateBuilt b) (kind : ScopeKind) : StateBuilt (b.restore kind) := by
  cases kind with
  | attributes | object =>
    simp only [Builder.restore]
    split
    · exact built
    · rename_i saved
      obtain ⟨current, others⟩ := List.forall_mem_cons.1 (saved ▸ built.savedGraphics)
      exact { built with current := current, savedGraphics := others }
  | transforms =>
    simp only [Builder.restore]
    split
    · exact built
    · rename_i saved
      obtain ⟨current, others⟩ := List.forall_mem_cons.1 (saved ▸ built.savedTransforms)
      exact { built with current := current, savedTransforms := others }

theorem restoreAll (built : StateBuilt b) (scopes : List (Scope α)) :
    StateBuilt (b.restoreAll scopes) := by
  induction scopes generalizing b with
  | nil => exact built
  | cons s rest ih => exact ih (built.restore s.kind)

theorem finishObject (built : StateBuilt b) : StateBuilt b.finishObject := by
  unfold Builder.finishObject
  split
  · exact built
  · exact { built with }

theorem leave (built : StateBuilt b) (rest : List (Scope α)) (kind : ScopeKind) :
    StateBuilt (b.leave rest kind) := by
  have closed : StateBuilt { b with openScopes := ⟨rest⟩ } := { built with }
  unfold Builder.leave
  split
  · exact (closed.restore kind).finishObject
  · exact closed.restore kind

theorem endWorld (built : StateBuilt b) : StateBuilt b.endWorld := by
  have closed : StateBuilt { b with openScopes := .none } := { built with }
  exact { (closed.restoreAll b.openScopes.scopes).finishObject with }

/-! ## Directives -/

theorem addStillShape (built : StateBuilt b) (s : StillShape α) :
    StateBuilt (b.addStillShape s) := by
  unfold Builder.addStillShape
  split <;> exact { built with }

theorem addMovingShape (built : StateBuilt b) (s : MovingShape α) :
    StateBuilt (b.addMovingShape s) := by
  unfold Builder.addMovingShape
  split <;> exact { built with }

theorem insert (built : StateBuilt b) (name : String) {ctm : TransformPair α}
    (builtCtm : ctm.Built) (other : String) (found : TransformPair α)
    (here : (b.coordinateSystems.insert name ctm).find? other = some found) : found.Built := by
  rw [Registry.find?_insert] at here
  split at here
  · exact Option.some.inj here ▸ builtCtm
  · exact built.named other found here

theorem effect {loc : Location α} {d : Directive α}
    {o : Outcome (BuildError α) (Builder α) (BuildNotice α) Unit} (built : StateBuilt b)
    (effect : Effect setup loc b d o) (pool : ∀ t ∈ o.state.pool.entries, t.Built) :
    StateBuilt o.state := by
  cases effect with
  | transformed does =>
    exact { built with
      current := built.current.update b.graphics.active fun _ =>
        Directive.built_of_transformation does }
  | coordinateSystem => exact { built with named := built.insert _ built.current }
  | coordSysTransform found => exact { built with current := built.named _ _ found }
  | camera =>
    exact { built with
      renderFromWorld := built_renderFromWorldHere b
      named := built.insert _ built.current.inverse
      pool := pool }
  | @stillShape name params _ =>
    have lit : StateBuilt (b.lightUp.withPool (Builder.stillShape setup loc name params b).2) :=
      { built with pool := (SamePlacing.addStillShape _ _).pool ▸ pool }
    exact lit.addStillShape _
  | @movingShape name params _ =>
    have lit : StateBuilt (b.lightUp.withPool (Builder.movingShape setup loc name params b).2) :=
      { built with pool := (SamePlacing.addMovingShape _ _).pool ▸ pool }
    exact lit.addMovingShape _
  | _ => exact { built with pool := pool }

theorem next (built : StateBuilt b) (reach : Reachable setup b) (d : LocatedDirective α) :
    StateBuilt (next setup b d) := by
  -- the pool grows by lookups only; the other fields are read off what the directive leaves
  have pool := built.pool_next reach d
  have change := change_next reach d
  generalize Builder.next setup b d = b' at pool change ⊢
  cases change with
  | nothing => exact built
  | effect _ effect => exact built.effect effect pool
  | worldBegin _ _ => exact { built with current := .identity, named := built.insert _ .identity }
  | attributeBegin =>
    exact { built with
      savedGraphics := List.forall_mem_cons.2 ⟨built.current, built.savedGraphics⟩ }
  | transformBegin =>
    exact { built with
      savedTransforms := List.forall_mem_cons.2 ⟨built.current, built.savedTransforms⟩ }
  | objectBegin =>
    exact { built with
      savedGraphics := List.forall_mem_cons.2 ⟨built.current, built.savedGraphics⟩ }
  | leave rest kind => exact built.leave rest kind
  | endWorld => exact built.endWorld

theorem of_fresh (fresh : Fresh b) (pool : ∀ t ∈ b.pool.entries, t.Built) : StateBuilt b := by
  obtain ⟨settings, shared, rfl⟩ := fresh
  refine ⟨.identity, fun g saved => absurd saved List.not_mem_nil,
    fun s saved => absurd saved List.not_mem_nil, fun name ctm found => ?_, .identity, pool⟩
  exact absurd found (by simp [initial])

end StateBuilt

/-- If the transforms are built that are in the pool at the start of a run, then all are that its
end keeps. -/
theorem stateBuilt_after (fresh : Fresh start) (pool : ∀ t ∈ start.pool.entries, t.Built)
    (ds : List (LocatedDirective α)) : StateBuilt (after setup start ds) := by
  induction ds using List.reverseRecOn with
  | nil => exact .of_fresh fresh pool
  | append_singleton ds d built =>
    rw [after_append]
    exact built.next ((Reachable.fresh fresh).after ds) d

end Builder

end SceneScript
