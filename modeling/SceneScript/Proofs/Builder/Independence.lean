import SceneScript.Proofs.Builder.Effects

/-!
# Entities do not move one another

Where an entity stands depends on the current transforms and on render space. Directives that only
add an entity to the scene change neither, nor anything that decides what later directives do to
them: which scopes are open, what is saved, and which objects have a name. `Alike` relates builders
that have all this in common. A directive leads from alike builders to alike ones (`Alike.next`),
and a directive that only adds an entity to one that is alike (`alike_next_of_declares`).

So two runs that differ only in such directives, or in the pools that they started with, keep the
same transforms (`alike_after`).
-/

set_option autoImplicit false

namespace SceneScript

variable {α : Type}

/-! ## Declarations -/

namespace Directive

/-- Whether a directive only adds an entity to the scene. -/
def declares : Directive α → Bool
  | film _ _ | sampler _ _ | pixelFilter _ _ | integrator _ _ | accelerator _ _ => true
  | texture _ _ _ _ | material _ _ | makeNamedMaterial _ _ | makeNamedMedium _ _ => true
  | lightSource _ _ | shape _ _ | objectInstance _ => true
  | _ => false

theorem transformation?_of_declares [Scalar α] {d : Directive α} (declares : d.declares = true) :
    d.transformation? = none := by
  cases d <;> first | rfl | exact absurd declares Bool.false_ne_true

theorem scopeRole_of_declares {d : Directive α} (declares : d.declares = true) :
    d.scopeRole = .plain := by
  cases d <;> first | rfl | exact absurd declares Bool.false_ne_true

end Directive

/-- The graphics state without its material, which no transform depends on. -/
def GraphicsState.unpainted (g : GraphicsState α) : GraphicsState α :=
  { g with material := .index 0 }

namespace Builder

/-- Two builders that differ at most in the entities declared, in the times of the scene and in the
pool. -/
structure Alike (b c : Builder α) : Prop where
  phase : b.phase = c.phase
  graphics : b.graphics.unpainted = c.graphics.unpainted
  savedGraphics : b.savedGraphics.map (·.unpainted) = c.savedGraphics.map (·.unpainted)
  savedTransforms : b.savedTransforms = c.savedTransforms
  openScopes : b.openScopes = c.openScopes
  coordinateSystems : b.coordinateSystems = c.coordinateSystems
  renderFromWorld : b.renderFromWorld = c.renderFromWorld
  openObject : b.openObject.map (·.name) = c.openObject.map (·.name)
  objects : ∀ name, b.scene.objects.contains name = c.scene.objects.contains name
  settings : b.scene.settings = c.scene.settings

namespace Alike

variable {b c d : Builder α}

theorem refl (b : Builder α) : Alike b b :=
  ⟨rfl, rfl, rfl, rfl, rfl, rfl, rfl, rfl, fun _ => rfl, rfl⟩

theorem symm (h : Alike b c) : Alike c b :=
  ⟨h.phase.symm, h.graphics.symm, h.savedGraphics.symm, h.savedTransforms.symm, h.openScopes.symm,
    h.coordinateSystems.symm, h.renderFromWorld.symm, h.openObject.symm,
    fun name => (h.objects name).symm, h.settings.symm⟩

theorem trans (h : Alike b c) (k : Alike c d) : Alike b d :=
  ⟨h.phase.trans k.phase, h.graphics.trans k.graphics, h.savedGraphics.trans k.savedGraphics,
    h.savedTransforms.trans k.savedTransforms, h.openScopes.trans k.openScopes,
    h.coordinateSystems.trans k.coordinateSystems, h.renderFromWorld.trans k.renderFromWorld,
    h.openObject.trans k.openObject, fun name => (h.objects name).trans (k.objects name),
    h.settings.trans k.settings⟩

theorem ctm (h : Alike b c) : b.graphics.ctm = c.graphics.ctm := by
  have same := congrArg (fun g : GraphicsState α => g.ctm) h.graphics
  exact same

theorem active (h : Alike b c) : b.graphics.active = c.graphics.active := by
  have same := congrArg (fun g : GraphicsState α => g.active) h.graphics
  exact same

/-- Either both builders define an object, and give it the same name, or neither does. -/
theorem openObject_cases (h : Alike b c) :
    (b.openObject = none ∧ c.openObject = none) ∨
      ∃ o o', b.openObject = some o ∧ c.openObject = some o' ∧ o.name = o'.name := by
  have names := h.openObject
  cases left : b.openObject with
  | none =>
    rw [left, Option.map_none, eq_comm, Option.map_eq_none_iff] at names
    exact Or.inl ⟨rfl, names⟩
  | some o =>
    rw [left, Option.map_some, eq_comm, Option.map_eq_some_iff] at names
    obtain ⟨o', right, name⟩ := names
    exact Or.inr ⟨o, o', rfl, right, name.symm⟩

theorem addStillShape (b : Builder α) (s : StillShape α) : Alike (b.addStillShape s) b := by
  cases opened : b.openObject with
  | none => rw [addStillShape_of_none opened]; exact { refl b with }
  | some o =>
    rw [addStillShape_of_some opened]
    exact { refl b with openObject := by rw [opened]; rfl }

theorem addMovingShape (b : Builder α) (s : MovingShape α) : Alike (b.addMovingShape s) b := by
  cases opened : b.openObject with
  | none => rw [addMovingShape_of_none opened]; exact { refl b with }
  | some o =>
    rw [addMovingShape_of_some opened]
    exact { refl b with openObject := by rw [opened]; rfl }

variable [Scalar α] {setup : BuildSetup α}

/-- What a declaration comes to leaves the builder alike. -/
theorem of_effect {loc : Location α} {d : Directive α}
    {o : Outcome (BuildError α) (Builder α) (BuildNotice α) Unit}
    (effect : Effect setup loc b d o) (declares : d.declares = true) : Alike o.state b := by
  cases effect with
  | ignored _ => exact refl b
  | refused _ _ => exact refl b
  | transformed does =>
    exact absurd does (by simp [Directive.transformation?_of_declares declares])
  | image part =>
    cases d with
    | film | sampler | pixelFilter | integrator | accelerator =>
      obtain ⟨-, -, rfl⟩ := part
      exact { refl b with }
    | _ => exact absurd part (by simp [Directive.imagePart?])
  | @texture _ _ _ _ kind _ _ => cases kind <;> exact { refl b with }
  | material => exact { refl b with }
  | makeNamedMaterial _ => exact { refl b with }
  | makeNamedMedium _ => exact { refl b with }
  | lightSource => exact { refl b with }
  | stillShape _ => exact (addStillShape _ _).trans { refl b with }
  | movingShape _ => exact (addMovingShape _ _).trans { refl b with }
  | objectInstance _ _ => exact { refl b with }
  | _ => exact absurd declares (by simp [Directive.declares])

end Alike

/-! ## Actions that declarations do not matter to -/

/-- Two actions that come to the same result from alike builders, and leave alike builders. -/
def Matches {β : Type} (act act' : Build α β) : Prop :=
  ∀ b c, Alike b c → (act.run b).result = (act'.run c).result ∧
    Alike (act.run b).state (act'.run c).state

namespace Matches

variable {β γ : Type}

theorem pure (v : β) : Matches (Pure.pure v : Build α β) (Pure.pure v) :=
  Action.Relates.pure v

theorem failAt (loc : Location α) (fault : BuildFault α) :
    Matches (failAt loc fault : Build α β) (Builder.failAt loc fault) :=
  Action.Relates.fail _

theorem notify (n m : BuildNotice α) :
    Matches (Action.notify n : Build α Unit) (Action.notify m) :=
  Action.Relates.notify n m

theorem warn (loc : Location α) (text : String) :
    Matches (warn loc text) (Builder.warn loc text) :=
  notify _ _

theorem complain (loc : Location α) (text : String) :
    Matches (complain loc text) (Builder.complain loc text) :=
  notify _ _

theorem modify {f g : Builder α → Builder α} (keeps : ∀ b c, Alike b c → Alike (f b) (g c)) :
    Matches (Action.modify f : Build α Unit) (Action.modify g) :=
  Action.Relates.modify keeps

theorem bind {act act' : Build α β} {k k' : β → Build α γ} (first : Matches act act')
    (second : ∀ v, Matches (k v) (k' v)) : Matches (act >>= k) (act' >>= k') :=
  Action.Relates.bind first second

/-- What is done after a look at the builder may depend on the builder. -/
theorem get_bind {k k' : Builder α → Build α γ}
    (second : ∀ b c, Alike b c → Matches (k b) (k' c)) :
    Matches (Action.get >>= k) (Action.get >>= k') :=
  Action.Relates.get_bind second

theorem forEach {f : β → Build α Unit} (each : ∀ v, Matches (f v) (f v)) (vs : List β) :
    Matches (Action.forEach f vs) (Action.forEach f vs) :=
  Action.Relates.forEach each vs

end Matches

section Parts

variable (loc : Location α)

theorem unpainted_congr {f : GraphicsState α → GraphicsState α}
    (keeps : ∀ g, (f g).unpainted = (f g.unpainted).unpainted) {g h : GraphicsState α}
    (same : g.unpainted = h.unpainted) : (f g).unpainted = (f h).unpainted := by
  rw [keeps g, keeps h, same]

theorem matches_modifyGraphics {f : GraphicsState α → GraphicsState α}
    (keeps : ∀ g, (f g).unpainted = (f g.unpainted).unpainted) :
    Matches (modifyGraphics f) (modifyGraphics f) :=
  .modify fun _ _ alike => { alike with graphics := unpainted_congr keeps alike.graphics }

theorem matches_closeScope (kind : ScopeKind) :
    Matches (closeScope kind loc) (closeScope kind loc) := by
  refine .get_bind fun b c alike => ?_
  rw [alike.openScopes]
  split
  · exact .failAt _ _
  · exact .modify fun _ _ alike => { alike with openScopes := rfl }

theorem matches_restoreGraphics : Matches (restoreGraphics loc) (restoreGraphics loc) := by
  refine .get_bind fun b c alike => ?_
  have saved := alike.savedGraphics
  cases h : b.savedGraphics <;> cases k : c.savedGraphics <;>
    simp only [h, k, List.map_nil, List.map_cons, List.cons.injEq, reduceCtorEq] at saved ⊢
  · exact .failAt _ _
  · exact .modify fun _ _ alike => { alike with graphics := saved.1, savedGraphics := saved.2 }

theorem matches_putTransforms (saved : SavedTransforms α) (rest : List (SavedTransforms α)) :
    Matches (putTransforms saved rest) (putTransforms saved rest) :=
  .modify fun _ _ alike => { alike with
    graphics := unpainted_congr
      (f := fun g => { g with ctm := saved.ctm, active := saved.active }) (fun _ => rfl)
      alike.graphics
    savedTransforms := rfl }

theorem matches_closeObject {o o' : ObjectDefinition α} (name : o.name = o'.name) :
    Matches (closeObject o) (closeObject o') :=
  .modify fun _ _ alike => { alike with
    openObject := rfl
    objects := fun other => by
      simp only [Registry.contains, Registry.find?_insert, name]
      split
      · rfl
      · exact alike.objects other }

theorem matches_handOver (setup : BuildSetup α) : Matches (handOver setup) (handOver setup) := by
  refine .get_bind fun b c alike => ?_
  rw [alike.settings]
  split
  · exact .pure _
  · exact .notify _ _
  · refine (Matches.notify _ _).bind fun _ => ?_
    split
    · exact .pure _
    · exact .notify _ _

theorem matches_transformActive (f : Transform α → Transform α) :
    Matches (transformActive f) (transformActive f) :=
  matches_modifyGraphics fun _ => rfl

theorem matches_performObjectBegin (name : String) :
    Matches (performObjectBegin loc name) (performObjectBegin loc name) := by
  refine .get_bind fun b c alike => ?_
  rw [alike.objects name]
  rcases alike.openObject_cases with ⟨left, right⟩ | ⟨o, o', left, right, same⟩
  · simp only [left, right]
    split
    · exact .failAt _ _
    · exact .modify fun _ _ alike => { alike with
        graphics := unpainted_congr
          (f := fun g => g.handDown .shape [objectName g name loc]) (fun _ => rfl) alike.graphics
        savedGraphics := by
          rw [List.map_cons, List.map_cons, alike.graphics, alike.savedGraphics]
        openScopes := by rw [alike.openScopes]
        openObject := rfl }
  · simp only [left, right, same]
    exact .failAt _ _

theorem matches_performObjectEnd :
    Matches (performObjectEnd loc) (performObjectEnd loc) := by
  refine .get_bind fun b c alike => ?_
  rcases alike.openObject_cases with ⟨left, right⟩ | ⟨o, o', left, right, same⟩
  · simp only [left, right]
    exact .failAt _ _
  · simp only [left, right]
    exact (matches_closeScope loc _).bind fun _ => (matches_restoreGraphics loc).bind fun _ =>
      matches_closeObject same

theorem matches_performCoordSysTransform (name : String) :
    Matches (performCoordSysTransform loc name) (performCoordSysTransform loc name) := by
  refine .get_bind fun b c alike => ?_
  rw [alike.coordinateSystems]
  cases c.coordinateSystems.find? name with
  | none => exact .warn _ _
  | some ctm => exact matches_modifyGraphics fun _ => rfl

theorem matches_performColorSpace (name : String) :
    Matches (performColorSpace loc name) (performColorSpace loc name) := by
  unfold performColorSpace
  cases ColorSpace.ofName? name with
  | none => exact .complain _ _
  | some colorSpace => exact matches_modifyGraphics fun _ => rfl

theorem matches_performTransformEnd :
    Matches (performTransformEnd loc) (performTransformEnd loc) := by
  refine (matches_closeScope loc _).bind fun _ => .get_bind fun b c alike => ?_
  rw [alike.savedTransforms]
  split
  · exact .failAt _ _
  · exact matches_putTransforms _ _

theorem matches_performAttributes (target : String) (params : List (Param α)) :
    Matches (performAttributes loc target params) (performAttributes loc target params) := by
  unfold performAttributes
  cases EntityKind.ofName? target with
  | none => exact .failAt _ _
  | some kind => exact matches_modifyGraphics fun _ => rfl

end Parts

/-! ## One directive -/

variable [Scalar α] {setup : BuildSetup α} {b c : Builder α}

theorem alike_next_of_declares {d : LocatedDirective α} (declares : d.directive.declares = true) :
    Alike (next setup b d) b := by
  have plain := Directive.scopeRole_of_declares declares
  cases placed : misplaced? b.phase d.directive with
  | some text =>
    rw [next_of_misplaced placed]
    exact .refl b
  | none =>
    rw [next_of_placed placed]
    exact .of_effect (effect_perform setup d.loc plain) declares

section Directives

variable (loc : Location α)

theorem matches_transformOfEntries (directive : String) (entries : List α) :
    Matches (transformOfEntries loc directive entries)
      (transformOfEntries loc directive entries) := by
  unfold transformOfEntries
  split
  · exact .failAt _ _
  · exact .pure _

theorem matches_closeForgotten (scope : Scope α) :
    Matches (closeForgotten loc scope) (closeForgotten loc scope) := by
  refine (Matches.warn _ _).bind fun _ => ?_
  split
  · refine .get_bind fun b c alike => ?_
    rw [alike.savedTransforms]
    split
    · exact .pure _
    · exact matches_putTransforms _ _
  · exact matches_restoreGraphics loc
  · exact matches_restoreGraphics loc

theorem matches_closeEverything :
    Matches (closeEverything loc) (closeEverything loc) := by
  refine .get_bind fun b c alike => ?_
  rw [alike.openScopes]
  refine .bind (.modify fun b c alike => ?_) fun _ => ?_
  · exact { alike with openScopes := by rw [alike.openScopes] }
  refine (Matches.forEach (matches_closeForgotten loc) _).bind fun _ => ?_
  refine .get_bind fun b c alike => ?_
  rcases alike.openObject_cases with ⟨left, right⟩ | ⟨o, o', left, right, same⟩
  · simp only [left, right]
    exact .pure _
  · simp only [left, right]
    exact matches_closeObject same

theorem matches_performOption (name value : String) :
    Matches (performOption loc name value) (performOption loc name value) := by
  refine .get_bind fun b c alike => ?_
  rw [alike.settings]
  cases c.scene.settings.apply name value with
  | error reason => exact .failAt _ _
  | ok settings => exact .modify fun _ _ alike => { alike with settings := rfl }

theorem matches_performLookAt (eye look up : Vec3 α) :
    Matches (performLookAt loc eye look up) (performLookAt loc eye look up) := by
  unfold performLookAt
  cases Transform.lookAt? eye look up with
  | none => exact .complain _ _
  | some t => exact matches_transformActive _

/-- No directive but a declaration makes builders differ that were alike. -/
theorem matches_perform {d : Directive α} (other : d.declares = false) :
    Matches (perform setup loc d) (perform setup loc d) := by
  cases d <;> unfold perform
  case option name value => exact matches_performOption loc name value
  case identity => exact matches_transformActive _
  case translate v => exact matches_transformActive _
  case scale v => exact matches_transformActive _
  case rotate degrees axis => exact matches_transformActive _
  case lookAt eye look up => exact matches_performLookAt loc eye look up
  case concatTransform entries =>
    exact (matches_transformOfEntries loc _ entries).bind fun _ => matches_transformActive _
  case transform entries =>
    exact (matches_transformOfEntries loc _ entries).bind fun _ => matches_transformActive _
  case coordinateSystem name =>
    exact .modify fun _ _ alike => { alike with
      coordinateSystems := by rw [alike.coordinateSystems, alike.ctm] }
  case coordSysTransform name => exact matches_performCoordSysTransform loc name
  case activeTransform slots => exact matches_modifyGraphics fun _ => rfl
  case transformTimes opening closing => exact .modify fun _ _ alike => { alike with }
  case colorSpace name => exact matches_performColorSpace loc name
  case camera name params =>
    intro b c alike
    rw [run_performCamera, run_performCamera]
    exact ⟨rfl, { alike with
      renderFromWorld := by rw [renderFromWorldHere, alike.ctm]; rfl
      coordinateSystems := by rw [alike.coordinateSystems, alike.ctm] }⟩
  case worldBegin =>
    exact .modify fun _ _ alike => { alike with
      phase := rfl
      graphics := unpainted_congr
        (f := fun g => { g with ctm := .identity, active := .all }) (fun _ => rfl) alike.graphics
      coordinateSystems := by rw [alike.coordinateSystems] }
  case worldEnd =>
    exact (matches_closeEverything loc).bind fun _ => (matches_handOver setup).bind fun _ =>
      .modify fun _ _ alike => { alike with phase := rfl }
  case attributeBegin =>
    exact .modify fun _ _ alike => { alike with
      savedGraphics := by
        rw [List.map_cons, List.map_cons, alike.graphics, alike.savedGraphics]
      openScopes := by rw [alike.openScopes] }
  case attributeEnd =>
    exact (matches_closeScope loc _).bind fun _ => matches_restoreGraphics loc
  case transformBegin =>
    exact .modify fun _ _ alike => { alike with
      savedTransforms := by rw [alike.ctm, alike.active, alike.savedTransforms]
      openScopes := by rw [alike.openScopes] }
  case transformEnd => exact matches_performTransformEnd loc
  case attributes target params => exact matches_performAttributes loc target params
  case namedMaterial name => exact matches_modifyGraphics fun _ => rfl
  case mediumInterface inside outside =>
    exact (matches_modifyGraphics fun _ => rfl).bind fun _ =>
      .modify fun _ _ alike => { alike with }
  case areaLightSource name params => exact matches_modifyGraphics fun _ => rfl
  case reverseOrientation => exact matches_modifyGraphics fun _ => rfl
  case objectBegin name => exact matches_performObjectBegin loc name
  case objectEnd => exact matches_performObjectEnd loc
  -- the others are declarations
  all_goals exact absurd other (by simp [Directive.declares])

end Directives

/-- A directive leads from alike builders to alike ones. -/
theorem Alike.next (alike : Alike b c) (d : LocatedDirective α) :
    Alike (next setup b d) (next setup c d) := by
  cases declares : d.directive.declares with
  | true =>
    have left : Alike (Builder.next setup b d) b := alike_next_of_declares declares
    exact (left.trans alike).trans (alike_next_of_declares declares).symm
  | false =>
    have matched : Matches (interpretAt setup d) (interpretAt setup d) := by
      refine .get_bind fun b c alike => ?_
      rw [alike.phase]
      cases misplaced? c.phase d.directive with
      | some text => exact .complain _ _
      | none => exact matches_perform d.loc declares
    exact (matched b c alike).2

/-! ## Runs -/

/-- Declarations can be left out of a run. -/
theorem alike_after_filter (alike : Alike b c) (ds : List (LocatedDirective α)) :
    Alike (after setup b ds) (after setup c (ds.filter fun d => !d.directive.declares)) := by
  induction ds generalizing b c with
  | nil => exact alike
  | cons d rest ih =>
    cases declares : d.directive.declares with
    | true =>
      rw [after_cons, List.filter_cons_of_neg (by simp [declares])]
      exact ih ((alike_next_of_declares declares).trans alike)
    | false =>
      rw [after_cons, List.filter_cons_of_pos (by simp [declares]), after_cons]
      exact ih (alike.next d)

/-- Runs that differ in declarations only leave builders that are alike. -/
theorem alike_after (alike : Alike b c) {ds es : List (LocatedDirective α)}
    (same : ds.filter (fun d => !d.directive.declares) =
      es.filter fun d => !d.directive.declares) : Alike (after setup b ds) (after setup c es) := by
  have left : Alike (after setup b ds) _ := alike_after_filter alike ds
  rw [same] at left
  exact left.trans (alike_after_filter (.refl c) es).symm

end Builder

end SceneScript
