import SceneScript.Proofs.Builder.Outcomes

/-!
# Builders that a slot cannot tell apart

The current transforms have a slot for each of two times. `SameAt` relates builders that agree at
one of the slots: whatever depends on the transforms is the same there, and so is everything else
that decides what later directives come to, down to the names that are taken. What the other slot
has may differ. So one builder may stand still where the other moves, and the pools, and the shapes
with their handles, have nothing to do with one another.

The steps of which directives are made lead from such builders to such builders, with the same
result, which is `Action.Relates` for `SameAt`.
-/

set_option autoImplicit false

namespace SceneScript

variable {α : Type}

/-! ## What a slot has of the transforms -/

/-- The transform of one slot, with the slots that are active. -/
structure SlotTransform (α : Type) where
  transform : Transform α
  active : ActiveSlots

/-- What a slot has of the current transforms. -/
def GraphicsState.atSlot (slot : TimeSlot) (g : GraphicsState α) : SlotTransform α :=
  ⟨g.ctm.get slot, g.active⟩

/-- What a slot has of saved transforms. -/
def SavedTransforms.atSlot (slot : TimeSlot) (t : SavedTransforms α) : SlotTransform α :=
  ⟨t.ctm.get slot, t.active⟩

/-- Two scenes that have given away the same names. -/
structure Scene.SameNames (s t : Scene α) : Prop where
  textures : ∀ kind name,
    (s.textures kind).any (·.sceneName == name) = (t.textures kind).any (·.sceneName == name)
  namedMaterials : ∀ name, s.namedMaterials.contains name = t.namedMaterials.contains name
  media : ∀ name, s.media.contains name = t.media.contains name
  objects : ∀ name, s.objects.contains name = t.objects.contains name

namespace Scene.SameNames

variable {s t u : Scene α}

theorem refl (s : Scene α) : SameNames s s :=
  ⟨fun _ _ => rfl, fun _ => rfl, fun _ => rfl, fun _ => rfl⟩

theorem symm (h : SameNames s t) : SameNames t s :=
  ⟨fun kind name => (h.textures kind name).symm, fun name => (h.namedMaterials name).symm,
    fun name => (h.media name).symm, fun name => (h.objects name).symm⟩

theorem trans (h : SameNames s t) (k : SameNames t u) : SameNames s u :=
  ⟨fun kind name => (h.textures kind name).trans (k.textures kind name),
    fun name => (h.namedMaterials name).trans (k.namedMaterials name),
    fun name => (h.media name).trans (k.media name),
    fun name => (h.objects name).trans (k.objects name)⟩

end Scene.SameNames

/-- Putting things under one name keeps it so that two registries have the same names. -/
theorem Registry.contains_insert_congr {β : Type} {r r' : Registry β} (name : String)
    (thing thing' : β) (same : ∀ other, r.contains other = r'.contains other) (other : String) :
    (r.insert name thing).contains other = (r'.insert name thing').contains other := by
  simp only [contains, find?_insert]
  split
  · rfl
  · exact same other

namespace Builder

/-- Two builders that a slot cannot tell apart. -/
structure SameAt (slot : TimeSlot) (b c : Builder α) : Prop where
  phase : b.phase = c.phase
  graphics : b.graphics.atSlot slot = c.graphics.atSlot slot
  savedGraphics : b.savedGraphics.map (·.atSlot slot) = c.savedGraphics.map (·.atSlot slot)
  savedTransforms : b.savedTransforms.map (·.atSlot slot) = c.savedTransforms.map (·.atSlot slot)
  openScopes : b.openScopes = c.openScopes
  coordinateSystems : ∀ name, (b.coordinateSystems.find? name).map (·.get slot) =
    (c.coordinateSystems.find? name).map (·.get slot)
  renderFromWorld : b.renderFromWorld.get slot = c.renderFromWorld.get slot
  openObject : b.openObject.map (·.name) = c.openObject.map (·.name)
  settings : b.scene.settings = c.scene.settings
  names : b.scene.SameNames c.scene

namespace SameAt

variable {slot : TimeSlot} {b c d : Builder α}

theorem refl (b : Builder α) : SameAt slot b b :=
  ⟨rfl, rfl, rfl, rfl, rfl, fun _ => rfl, rfl, rfl, rfl, .refl _⟩

theorem symm (h : SameAt slot b c) : SameAt slot c b :=
  ⟨h.phase.symm, h.graphics.symm, h.savedGraphics.symm, h.savedTransforms.symm, h.openScopes.symm,
    fun name => (h.coordinateSystems name).symm, h.renderFromWorld.symm, h.openObject.symm,
    h.settings.symm, h.names.symm⟩

theorem trans (h : SameAt slot b c) (k : SameAt slot c d) : SameAt slot b d :=
  ⟨h.phase.trans k.phase, h.graphics.trans k.graphics, h.savedGraphics.trans k.savedGraphics,
    h.savedTransforms.trans k.savedTransforms, h.openScopes.trans k.openScopes,
    fun name => (h.coordinateSystems name).trans (k.coordinateSystems name),
    h.renderFromWorld.trans k.renderFromWorld, h.openObject.trans k.openObject,
    h.settings.trans k.settings, h.names.trans k.names⟩

theorem ctm (h : SameAt slot b c) : b.graphics.ctm.get slot = c.graphics.ctm.get slot :=
  congrArg SlotTransform.transform h.graphics

theorem active (h : SameAt slot b c) : b.graphics.active = c.graphics.active :=
  congrArg SlotTransform.active h.graphics

/-- The current transforms may change where the slot has the same ones afterwards. -/
theorem withGraphics (h : SameAt slot b c) {g g' : GraphicsState α}
    (same : g.atSlot slot = g'.atSlot slot) :
    SameAt slot { b with graphics := g } { c with graphics := g' } :=
  { h with graphics := same }

/-- Both builders may give the same name to transforms that are the same at the slot. -/
theorem withCoordinateSystem (h : SameAt slot b c) (name : String) {t t' : TransformPair α}
    (same : t.get slot = t'.get slot) (other : String) :
    ((b.coordinateSystems.insert name t).find? other).map (·.get slot) =
      ((c.coordinateSystems.insert name t').find? other).map (·.get slot) := by
  rw [Registry.find?_insert, Registry.find?_insert]
  split
  · exact congrArg some same
  · exact h.coordinateSystems other

/-- Either both builders define an object, and give it the same name, or neither does. -/
theorem openObject_cases (h : SameAt slot b c) :
    (b.openObject = none ∧ c.openObject = none) ∨
      ∃ o o', b.openObject = some o ∧ c.openObject = some o' ∧ o.name = o'.name := by
  have names := h.openObject
  cases left : b.openObject with
  | none =>
    rw [left, Option.map_none, eq_comm, Option.map_eq_none_iff] at names
    exact Or.inl ⟨rfl, names⟩
  | some o =>
    rw [left, Option.map_some, eq_comm, Option.map_eq_some_iff] at names
    obtain ⟨o', right, name⟩ := names
    exact Or.inr ⟨o, o', rfl, right, name.symm⟩

theorem addStillShape (b : Builder α) (s : StillShape α) :
    SameAt slot (b.addStillShape s) b := by
  cases opened : b.openObject with
  | none =>
    rw [addStillShape_of_none opened]
    exact { refl b with names := { Scene.SameNames.refl b.scene with } }
  | some o =>
    rw [addStillShape_of_some opened]
    exact { refl b with openObject := by rw [opened]; rfl }

theorem addMovingShape (b : Builder α) (s : MovingShape α) :
    SameAt slot (b.addMovingShape s) b := by
  cases opened : b.openObject with
  | none =>
    rw [addMovingShape_of_none opened]
    exact { refl b with names := { Scene.SameNames.refl b.scene with } }
  | some o =>
    rw [addMovingShape_of_some opened]
    exact { refl b with openObject := by rw [opened]; rfl }

end SameAt

/-! ## Actions that keep a slot as it is -/

section Parts

variable {slot : TimeSlot} (loc : Location α)

/-- An action that always comes to one result, and keeps the slot as it is. -/
theorem relates_of_keeps {β : Type} {act : Build α β} (r : Except (BuildError α) β)
    (keeps : ∀ b, (act.run b).result = r ∧ SameAt slot (act.run b).state b) :
    Action.Relates (SameAt slot) act act :=
  fun b c same => ⟨(keeps b).1.trans (keeps c).1.symm,
    (keeps b).2.trans (same.trans (keeps c).2.symm)⟩

theorem relates_modifyGraphics {f : GraphicsState α → GraphicsState α}
    (keeps : ∀ g g', g.atSlot slot = g'.atSlot slot → (f g).atSlot slot = (f g').atSlot slot) :
    Action.Relates (SameAt slot) (modifyGraphics f) (modifyGraphics f) :=
  .modify fun _ _ same => same.withGraphics (keeps _ _ same.graphics)

/-- A slot does not mind a part of the graphics state that is no transform. -/
theorem relates_modifyGraphics_of_keeps {f : GraphicsState α → GraphicsState α}
    (keeps : ∀ g, (f g).atSlot slot = g.atSlot slot) :
    Action.Relates (SameAt slot) (modifyGraphics f) (modifyGraphics f) :=
  relates_modifyGraphics fun g g' same => (keeps g).trans (same.trans (keeps g').symm)

/-- A change of the active transforms is the same for both builders, if the slot is active, and no
change for either, if it is not. -/
theorem relates_transformActive (f : Transform α → Transform α) :
    Action.Relates (SameAt slot) (transformActive f) (transformActive f) := by
  refine relates_modifyGraphics fun g g' same => ?_
  have ctm : g.ctm.get slot = g'.ctm.get slot := congrArg SlotTransform.transform same
  have active : g.active = g'.active := congrArg SlotTransform.active same
  simp only [GraphicsState.atSlot, GraphicsState.transformActive, TransformPair.get_update, ctm,
    active]

theorem relates_closeScope (kind : ScopeKind) :
    Action.Relates (SameAt slot) (closeScope kind loc) (closeScope kind loc) := by
  refine .get_bind fun b c same => ?_
  rw [same.openScopes]
  split
  · exact .fail _
  · exact .modify fun _ _ same => { same with openScopes := rfl }

theorem relates_restoreGraphics :
    Action.Relates (SameAt slot) (restoreGraphics loc) (restoreGraphics loc) := by
  refine .get_bind fun b c same => ?_
  have saved := same.savedGraphics
  cases h : b.savedGraphics <;> cases k : c.savedGraphics <;>
    simp only [h, k, List.map_nil, List.map_cons, List.cons.injEq, reduceCtorEq] at saved ⊢
  · exact .fail _
  · exact .modify fun _ _ same => { same with graphics := saved.1, savedGraphics := saved.2 }

theorem relates_putTransforms {t t' : SavedTransforms α} {ts ts' : List (SavedTransforms α)}
    (first : t.atSlot slot = t'.atSlot slot)
    (others : ts.map (·.atSlot slot) = ts'.map (·.atSlot slot)) :
    Action.Relates (SameAt slot) (putTransforms t ts) (putTransforms t' ts') :=
  .modify fun _ _ same => { same with graphics := first, savedTransforms := others }

/-- Both builders go back to what they saved, or do `missing` if they saved nothing. -/
theorem relates_putSaved {b c : Builder α} (same : SameAt slot b c) {missing : Build α Unit}
    (both : Action.Relates (SameAt slot) missing missing) :
    Action.Relates (SameAt slot)
      (match b.savedTransforms with
        | [] => missing
        | saved :: rest => putTransforms saved rest)
      (match c.savedTransforms with
        | [] => missing
        | saved :: rest => putTransforms saved rest) := by
  have saved := same.savedTransforms
  cases h : b.savedTransforms <;> cases k : c.savedTransforms <;>
    simp only [h, k, List.map_nil, List.map_cons, List.cons.injEq, reduceCtorEq] at saved ⊢
  · exact both
  · exact relates_putTransforms saved.1 saved.2

theorem relates_closeObject {o o' : ObjectDefinition α} (name : o.name = o'.name) :
    Action.Relates (SameAt slot) (closeObject o) (closeObject o') :=
  .modify fun _ _ same => { same with
    openObject := rfl
    names := { same.names with
      objects := by
        rw [name]
        exact Registry.contains_insert_congr _ _ _ same.names.objects } }

theorem relates_handOver (setup : BuildSetup α) :
    Action.Relates (SameAt slot) (handOver setup) (handOver setup) :=
  relates_of_keeps (.ok ()) fun b => by
    rw [run_handOver]
    exact ⟨rfl, .refl b⟩

end Parts

end Builder

end SceneScript
