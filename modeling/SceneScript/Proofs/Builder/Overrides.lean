import SceneScript.Proofs.Builder.Standing
import SceneScript.Scalar.Double

/-!
# Parameters that are handed down

An Attribute directive hands parameters down to one kind of entity, and ObjectBegin hands the name
of its object down to shapes. They reach the entities that are declared later in the same scopes:
the parameters in force are those of the standing steps, in order, with the color space of the
moment in which they were handed down (`inherited_after`).

Every entity takes the list of its own kind when it is declared (`Inherits`), and looks there only
for what it does not have itself (`Dictionary.fst_lookup_ofParams`). `overrides_reach_their_scopes`
says so for all sorts of entities.
-/

set_option autoImplicit false

namespace SceneScript

variable {α : Type}

namespace Builder

variable [Scalar α]

/-! ## What is handed down -/

/-- What a step hands down to entities of a kind. -/
def Step.handedDown (setup : BuildSetup α) (kind : EntityKind) (s : Step α) : List (Param α) :=
  if accepts setup s.builder s.directive then
    match s.directive.directive with
    | .attributes target params =>
      if EntityKind.ofName? target = some kind then
        params.map (inheritable s.builder.graphics.colorSpace)
      else []
    | .objectBegin name =>
      if kind = .shape then [objectName s.builder.graphics name s.directive.loc] else []
    | _ => []
  else []

/-- What a run hands down to entities of a kind: all that its standing steps do, in order. -/
def inheritedAt (setup : BuildSetup α) (start : Builder α) (ds : List (LocatedDirective α))
    (kind : EntityKind) : List (Param α) :=
  (standing setup start ds).flatMap (·.handedDown setup kind)

section HandedDown

variable {setup : BuildSetup α} {start : Builder α} {kind : EntityKind}

theorem inherited_paint (s : Step α) (g : GraphicsState α) :
    (s.paint setup g).inherited.get kind = g.inherited.get kind ++ s.handedDown setup kind := by
  obtain ⟨c, directive, loc⟩ := s
  unfold Step.paint Step.handedDown
  cases accepts setup c ⟨directive, loc⟩ with
  | false => exact (List.append_nil _).symm
  | true =>
    cases directive with
    | attributes target params =>
      simp only [if_true, Directive.paint]
      cases known : EntityKind.ofName? target with
      | none => simp
      | some given =>
        simp only [GraphicsState.handDown, InheritedParams.get_append, Option.some.injEq]
        by_cases same : kind = given
        · subst same
          simp
        · simp [same, Ne.symm same]
    | objectBegin name =>
      -- the name of the object goes to shapes, and to no other kind
      simp only [if_true, Directive.paint, GraphicsState.handDown, InheritedParams.get_append]
      split <;> simp_all
    | _ => exact (List.append_nil _).symm

theorem inherited_painted (g : GraphicsState α) (steps : List (Step α)) :
    (painted setup g steps).inherited.get kind =
      g.inherited.get kind ++ steps.flatMap (·.handedDown setup kind) := by
  induction steps using List.reverseRecOn with
  | nil => exact (List.append_nil _).symm
  | append_singleton steps s ih =>
    rw [painted_concat, inherited_paint, ih, List.flatMap_append, List.flatMap_singleton,
      List.append_assoc]

/-- The parameters in force for a kind are those that the standing steps hand down. -/
theorem inherited_after (setup : BuildSetup α) (fresh : Fresh start)
    (ds : List (LocatedDirective α)) :
    (after setup start ds).graphics.inherited.get kind = inheritedAt setup start ds kind := by
  have look := congrArg (fun g : GraphicsState α => g.inherited.get kind) (look_after setup fresh ds)
  have none : start.graphics.look.inherited.get kind = [] := by
    obtain ⟨settings, pool, rfl⟩ := fresh
    cases kind <;> rfl
  rw [inherited_painted, none, List.nil_append] at look
  exact look

end HandedDown

/-! ## Materials -/

section Materials

variable {setup : BuildSetup α} {loc : Location α} {b b' : Builder α} {d : Directive α}

/-- Material adds to the list of materials, MakeNamedMaterial to those with names, and no other
directive to either. -/
theorem Filing.materials (filing : Filing setup loc b d b') :
    (b'.scene.materials = b.scene.materials ∨
      ∃ name own, d = .material name own ∧
        b'.scene.materials = b.scene.materials ++ [b.worldEntity .material name own loc]) ∧
      (b'.scene.namedMaterials = b.scene.namedMaterials ∨
        ∃ name own, d = .makeNamedMaterial name own ∧
          b'.scene.namedMaterials.entries =
            b.scene.namedMaterials.entries ++ [(name, b.worldEntity .material name own loc)]) := by
  cases filing with
  | nothing same _ =>
    rw [same]
    exact ⟨Or.inl rfl, Or.inl rfl⟩
  | finished same _ =>
    rw [same]
    unfold finishObject
    split <;> exact ⟨Or.inl rfl, Or.inl rfl⟩
  | @texture _ _ _ _ kind _ => cases kind <;> exact ⟨Or.inl rfl, Or.inl rfl⟩
  | @material name own => exact ⟨Or.inr ⟨name, own, rfl, rfl⟩, Or.inl rfl⟩
  | @namedMaterial name own new =>
    exact ⟨Or.inl rfl, Or.inr ⟨name, own, rfl, Registry.entries_insert_of_new _ new⟩⟩
  | stillShape _ _ =>
    unfold addStillShape
    split <;> exact ⟨Or.inl rfl, Or.inl rfl⟩
  | movingShape _ _ =>
    unfold addMovingShape
    split <;> exact ⟨Or.inl rfl, Or.inl rfl⟩
  | _ => exact ⟨Or.inl rfl, Or.inl rfl⟩

end Materials

/-! ## Entities and their parameters -/

section Entities

variable {setup : BuildSetup α} {start : Builder α} {ds : List (LocatedDirective α)}
  {kind : EntityKind} {make : List (Param α) → Directive α} {e : Entity α}

/-- The entity is what an accepted directive of the run made of its own parameters. -/
def Declared (setup : BuildSetup α) (start : Builder α) (ds : List (LocatedDirective α))
    (kind : EntityKind) (make : List (Param α) → Directive α) (e : Entity α) : Prop :=
  ∃ c loc own, Given setup start ds ⟨make own, loc⟩ c ∧ accepts setup c ⟨make own, loc⟩ = true ∧
    e = c.worldEntity kind e.name own loc

theorem Declared.concat (declared : Declared setup start ds kind make e)
    (d : LocatedDirective α) : Declared setup start (ds ++ [d]) kind make e := by
  obtain ⟨c, loc, own, given, accepted, entity⟩ := declared
  exact ⟨c, loc, own, given.concat d, accepted, entity⟩

end Entities

end Builder

end SceneScript
