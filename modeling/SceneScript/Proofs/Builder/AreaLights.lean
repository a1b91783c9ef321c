import SceneScript.Proofs.Builder.Overrides

/-!
# Area lights are snapshots

AreaLightSource keeps what is in force when it is given: its own name, parameters and place, the
parameters handed down to lights, and the color space. What comes later cannot change any of it. The
light in force is the one that the last of these directives declared among the standing steps
(`areaLight_after`).

A shape of the scene that is added while a light is in force adds the entity of that light, and
nothing else does. So the area lights of a run are a list that can be read off its Shape directives
(`areaLights_after`), and shapes under one AreaLightSource have the same entity. A shape of an object
draws a warning instead. `area_lights_are_snapshots` puts this together.
-/

set_option autoImplicit false

namespace SceneScript.Builder

variable {α : Type} [Scalar α]

/-! ## The area light in force -/

section InForce

/-- The area light that a step declares, if it is an accepted AreaLightSource directive. -/
def Step.areaLight? (setup : BuildSetup α) (s : Step α) : Option (AreaLight α) :=
  if accepts setup s.builder s.directive then
    match s.directive.directive with
    | .areaLightSource name own =>
      some ⟨name, own, s.builder.graphics.inherited.light, s.builder.graphics.colorSpace,
        s.directive.loc⟩
    | _ => none
  else none

/-- Whether a step declares an area light. -/
def Step.setsAreaLight (setup : BuildSetup α) (s : Step α) : Bool :=
  (s.areaLight? setup).isSome

/-- The last step of a run that declared an area light and stands. -/
def lastAreaLight? (setup : BuildSetup α) (start : Builder α) (ds : List (LocatedDirective α)) :
    Option (Step α) :=
  (standing setup start ds).reverse.find? (·.setsAreaLight setup)

/-- The entity of the area light that a step declares. -/
def Step.lightEntity? (setup : BuildSetup α) (s : Step α) : Option (Entity α) :=
  (s.areaLight? setup).map areaLightEntity

/-- The entity of the area light that was declared last and stands. -/
def lightInForce? (setup : BuildSetup α) (start : Builder α) (ds : List (LocatedDirective α)) :
    Option (Entity α) :=
  (lastAreaLight? setup start ds).bind (·.lightEntity? setup)

/-- A step of a run is an accepted AreaLightSource directive, and the entity has its name, parameters
and place, with the color space and the parameters for lights that were in force then. -/
def Declares (setup : BuildSetup α) (start : Builder α) (ds : List (LocatedDirective α))
    (s : Step α) (e : Entity α) : Prop :=
  ∃ before own rest, ds = before ++ ⟨.areaLightSource e.name own, e.loc⟩ :: rest ∧
    s = ⟨after setup start before, ⟨.areaLightSource e.name own, e.loc⟩⟩ ∧
    accepts setup s.builder s.directive = true ∧
    e.parameters = .ofParams own s.builder.graphics.colorSpace
      (inheritedAt setup start before .light)

variable {setup : BuildSetup α} {start : Builder α}

theorem areaLight_paint (s : Step α) (g : GraphicsState α) :
    (s.paint setup g).areaLight = (s.areaLight? setup).or g.areaLight := by
  obtain ⟨c, directive, loc⟩ := s
  rw [Step.paint, Step.areaLight?]
  cases accepts setup c ⟨directive, loc⟩ with
  | false => rfl
  | true =>
    cases directive with
    | attributes target params =>
      simp only [if_true, Directive.paint]
      cases EntityKind.ofName? target <;> rfl
    | _ => rfl

theorem areaLight_painted (g : GraphicsState α) (steps : List (Step α)) :
    (painted setup g steps).areaLight =
      ((steps.reverse.find? (·.setsAreaLight setup)).bind (·.areaLight? setup)).or
        g.areaLight := by
  induction steps using List.reverseRecOn with
  | nil => rfl
  | append_singleton steps s ih =>
    rw [painted_concat, areaLight_paint, ih, List.reverse_concat, List.find?_cons,
      Step.setsAreaLight]
    cases declared : s.areaLight? setup with
    | none => rfl
    | some light => simp [declared]

/-- The area light in force is that of the last standing step that declared one. -/
theorem areaLight_after (setup : BuildSetup α) (fresh : Fresh start)
    (ds : List (LocatedDirective α)) :
    (after setup start ds).graphics.areaLight =
      (lastAreaLight? setup start ds).bind (·.areaLight? setup) := by
  have look := congrArg (fun g : GraphicsState α => g.areaLight) (look_after setup fresh ds)
  have none : start.graphics.look.areaLight = none := by
    obtain ⟨settings, pool, rfl⟩ := fresh
    rfl
  rw [areaLight_painted, none, Option.or_none] at look
  exact look

theorem map_areaLightEntity_after (fresh : Fresh start) (ds : List (LocatedDirective α)) :
    (after setup start ds).graphics.areaLight.map areaLightEntity =
      lightInForce? setup start ds := by
  rw [areaLight_after setup fresh, Option.map_bind]
  rfl

/-- What a standing step declares is a snapshot of the moment in which it was given. -/
theorem declares_of_lastAreaLight? (fresh : Fresh start) {ds : List (LocatedDirective α)}
    {s : Step α} (last : lastAreaLight? setup start ds = some s) :
    ∃ e, s.lightEntity? setup = some e ∧ Declares setup start ds s e := by
  have declares : s.setsAreaLight setup = true := List.find?_some last
  have stands : s ∈ standing setup start ds :=
    List.mem_reverse.1 (List.mem_of_find?_eq_some last)
  obtain ⟨before, rest, split, builder⟩ := given_of_mem_standing stands
  obtain ⟨c, directive, loc⟩ := s
  obtain rfl : c = after setup start before := builder
  have handed : (after setup start before).graphics.inherited.get .light =
      inheritedAt setup start before .light := inherited_after setup fresh before
  rw [Step.setsAreaLight, Step.areaLight?] at declares
  rw [Step.lightEntity?, Step.areaLight?]
  split at declares
  · rename_i accepted
    cases directive with
    | areaLightSource name own =>
      -- the entity is made of the builder as it was at this step
      rw [if_pos accepted]
      refine ⟨_, rfl, before, own, rest, split, rfl, accepted, ?_⟩
      rw [← handed]
      rfl
    | _ => exact absurd declares Bool.false_ne_true
  · exact absurd declares Bool.false_ne_true

end InForce

/-! ## What shapes add -/

section Emissions

/-- What a directive adds to the area lights when it is given after others: the entity of the light in
force, if it adds a shape to the scene. -/
def emission? (setup : BuildSetup α) (start : Builder α) (before : List (LocatedDirective α))
    (d : LocatedDirective α) : Option (Entity α) :=
  if d.directive.isShape && accepts setup (after setup start before) d &&
      (after setup start before).openObject.isNone then
    lightInForce? setup start before
  else none

/-- What directives in turn add to the area lights when they are given after others. -/
def emissions (setup : BuildSetup α) (start : Builder α) (before : List (LocatedDirective α)) :
    List (LocatedDirective α) → List (Entity α)
  | [] => []
  | d :: rest =>
    (emission? setup start before d).toList ++ emissions setup start (before ++ [d]) rest

variable {setup : BuildSetup α} {b b' : Builder α}

theorem emissions_append (setup : BuildSetup α) (start : Builder α)
    (before ds es : List (LocatedDirective α)) :
    emissions setup start before (ds ++ es) =
      emissions setup start before ds ++ emissions setup start (before ++ ds) es := by
  induction ds generalizing before with
  | nil => simp [emissions]
  | cons d rest ih =>
    rw [List.cons_append, emissions, emissions, ih, List.append_assoc, List.append_assoc]
    rfl

/-- An accepted Shape directive adds the light of its shape. -/
theorem areaLights_next_shape (setup : BuildSetup α) (name : String) (params : List (Param α))
    (loc : Location α) (world : b.phase = .world) :
    (next setup b ⟨.shape name params, loc⟩).scene.areaLights =
      b.scene.areaLights ++ (b.lightOfNextShape.map areaLightEntity).toList := by
  rw [next, run_interpretAt_shape setup name params loc world]
  cases moves : b.graphics.ctm.moves with
  | false =>
    rw [run_performShape_of_still setup loc name params moves, addStillShape]
    split <;> rfl
  | true =>
    rw [run_performShape_of_moving setup loc name params moves, addMovingShape]
    split <;> rfl

omit [Scalar α] in
theorem SameEntities.areaLights (same : SameEntities b b') :
    b'.scene.areaLights = b.scene.areaLights := by
  rw [SameEntities] at same
  rw [same]
  rfl

/-- A directive that is no Shape directive adds no area light. -/
theorem Filing.areaLights {loc : Location α} {d : Directive α}
    (filing : Filing setup loc b d b') (other : d.isShape = false) :
    b'.scene.areaLights = b.scene.areaLights := by
  cases filing with
  | nothing same _ => exact same.areaLights
  | finished same _ =>
    refine same.areaLights.trans ?_
    rw [finishObject]
    split <;> rfl
  | @texture _ _ _ _ kind _ => cases kind <;> rfl
  | stillShape _ _ | movingShape _ _ => exact absurd other (by simp [Directive.isShape])
  | _ => rfl

omit [Scalar α] in
theorem lightOfNextShape_eq (b : Builder α) :
    b.lightOfNextShape = if b.openObject.isNone then b.graphics.areaLight else none := by
  rw [lightOfNextShape]
  cases b.openObject <;> rfl

variable {start : Builder α}

/-- What one directive of a run adds to the area lights. -/
theorem areaLights_next (fresh : Fresh start) (before : List (LocatedDirective α))
    (d : LocatedDirective α) :
    (next setup (after setup start before) d).scene.areaLights =
      (after setup start before).scene.areaLights ++ (emission? setup start before d).toList := by
  have reach : Reachable setup (after setup start before) := (Reachable.fresh fresh).after before
  rw [emission?]
  cases accepted : accepts setup (after setup start before) d with
  | false =>
    rw [next_of_not_accepts reach accepted, Bool.and_false, Bool.false_and]
    exact (List.append_nil _).symm
  | true =>
    cases shape : d.directive.isShape with
    | false =>
      rw [(filing_interpretAt reach d).areaLights shape]
      exact (List.append_nil _).symm
    | true =>
      obtain ⟨directive, loc⟩ := d
      obtain ⟨name, params, rfl⟩ := Directive.isShape_iff.1 shape
      have world := (accepts_shape_iff setup name params loc).1 accepted
      rw [areaLights_next_shape setup name params loc world, lightOfNextShape_eq,
        ← map_areaLightEntity_after fresh]
      cases (after setup start before).openObject <;> rfl

/-- The area lights of a run are what its directives add, in order. -/
theorem areaLights_after (setup : BuildSetup α) (fresh : Fresh start)
    (ds : List (LocatedDirective α)) :
    (after setup start ds).scene.areaLights = emissions setup start [] ds := by
  induction ds using List.reverseRecOn with
  | nil =>
    obtain ⟨settings, pool, rfl⟩ := fresh
    rfl
  | append_singleton ds d ih =>
    rw [after_append, after_cons, after_nil, areaLights_next fresh, ih, emissions_append,
      List.nil_append, emissions, emissions, List.append_nil]

end Emissions

/-! ## The area lights of a run -/

section Run

variable {setup : BuildSetup α} {start b : Builder α}

/-- The notices of an accepted Shape directive: a warning, if the shape of an object would have emitted
light. -/
theorem notices_interpretAt_shape (setup : BuildSetup α) (name : String)
    (params : List (Param α)) (loc : Location α) (world : b.phase = .world) :
    ((interpretAt setup ⟨.shape name params, loc⟩).run b).notices = lightWarnings loc b := by
  rw [run_interpretAt_shape setup name params loc world]
  cases moves : b.graphics.ctm.moves with
  | false => rw [run_performShape_of_still setup loc name params moves]
  | true => rw [run_performShape_of_moving setup loc name params moves]

/-- After any directives in turn, failed or not. The area lights of the scene are what its accepted
Shape directives have added, in their order. An accepted Shape directive looks for the last
AreaLightSource directive that was accepted before it and is in no attribute or object scope that was
closed by then. Without one it adds no area light, and says nothing. With one it adds none in an
object, and draws a warning; outside of objects it adds the entity of that AreaLightSource, whatever
was given in between, without a notice, and the new shape refers to the place that the entity has
then and up to the end of the run. -/
theorem area_lights_are_snapshots (setup : BuildSetup α) (fresh : Fresh start)
    (ds : List (LocatedDirective α)) :
    let b := after setup start ds
    b.scene.areaLights = emissions setup start [] ds ∧
      ∀ before name own loc rest, ds = before ++ ⟨.shape name own, loc⟩ :: rest →
        let c := after setup start before
        let o := (interpretAt setup ⟨.shape name own, loc⟩).run c
        accepts setup c ⟨.shape name own, loc⟩ = true →
        (lastAreaLight? setup start before = none →
          o.state.scene.areaLights = c.scene.areaLights ∧ o.notices = []) ∧
        ∀ s, lastAreaLight? setup start before = some s →
          ∃ e, s.lightEntity? setup = some e ∧ Declares setup start before s e ∧
            if c.openObject.isSome then
              o.state.scene.areaLights = c.scene.areaLights ∧
                o.notices = [.message
                  ⟨.warning, "Area lights not supported with object instancing", some loc⟩]
            else
              o.state.scene.areaLights = c.scene.areaLights ++ [e] ∧ o.notices = [] ∧
                b.scene.areaLights[c.scene.areaLights.length]? = some e ∧
                ∃ shape : ShapeBase α, shape.entity = c.worldEntity .shape name own loc ∧
                  shape.areaLight = some c.scene.areaLights.length ∧
                  o.state.shapes.Perm (shape :: c.shapes) := by
  intro b
  refine ⟨areaLights_after setup fresh ds, ?_⟩
  rintro before name own loc rest rfl c o accepted
  have world : c.phase = .world := (accepts_shape_iff setup name own loc).1 accepted
  have notices : o.notices = lightWarnings loc c :=
    notices_interpretAt_shape setup name own loc world
  have lights : o.state.scene.areaLights =
      c.scene.areaLights ++ (c.lightOfNextShape.map areaLightEntity).toList :=
    areaLights_next_shape setup name own loc world
  have inForce : c.graphics.areaLight = (lastAreaLight? setup start before).bind _ :=
    areaLight_after setup fresh before
  rw [lightOfNextShape_eq, inForce] at lights
  rw [lightWarnings, inForce] at notices
  constructor
  · intro dark
    rw [dark] at lights notices
    exact ⟨by simpa using lights, by simpa using notices⟩
  intro s last
  obtain ⟨e, entity, declares⟩ := declares_of_lastAreaLight? fresh last
  obtain ⟨light, declared, rfl⟩ := Option.map_eq_some_iff.1 entity
  rw [last, Option.bind_some, declared] at lights notices
  refine ⟨_, entity, declares, ?_⟩
  cases object : c.openObject with
  | some o =>
    rw [object] at lights notices
    exact ⟨by simpa using lights, by simpa using notices⟩
  | none =>
    rw [object] at lights notices
    have added : o.state.scene.areaLights = c.scene.areaLights ++ [areaLightEntity light] := lights
    refine ⟨added, by simpa using notices, ?_, c.shapeBase name own loc c.nextAreaLight, rfl, ?_,
      perm_shapes_next_shape setup name own loc world⟩
    · -- the list only grows behind the new entity
      have reach : Reachable setup (next setup c ⟨.shape name own, loc⟩) :=
        ((Reachable.fresh fresh).after before).next _
      obtain ⟨more, grown⟩ := (grows_after reach rest).areaLights
      have whole : b = after setup (next setup c ⟨.shape name own, loc⟩) rest := by
        rw [← after_cons, ← after_append]
      have first : (next setup c ⟨.shape name own, loc⟩).scene.areaLights = _ := added
      rw [whole, ← grown, first]
      simp
    · simp [shapeBase, nextAreaLight, lightOfNextShape, object, inForce, last, declared]

/-- Control: two shapes under one AreaLightSource, with an Attribute, a ColorSpace and a scope with an
AreaLightSource of its own in between, and one in an object. -/
theorem area_lights_are_snapshots_two_shapes :
    let setup : BuildSetup Float := ⟨standardHash, .absent⟩
    let start : Builder Float := initial .defaults
    let power : Param Float := .define "float" "power" [.number 2]
    let scale : Param Float := .define "float" "scale" [.number 3]
    let before : List (LocatedDirective Float) :=
      [⟨.worldBegin, .unknown⟩, ⟨.attributes "light" [power], .unknown⟩,
        ⟨.areaLightSource "diffuse" [], .unknown⟩, ⟨.shape "sphere" [], .unknown⟩,
        ⟨.attributes "light" [scale], .unknown⟩, ⟨.colorSpace "aces2065-1", .unknown⟩,
        ⟨.attributeBegin, .unknown⟩, ⟨.areaLightSource "spot" [], .unknown⟩,
        ⟨.attributeEnd, .unknown⟩]
    let ds := before ++ ⟨.shape "disk" [], .unknown⟩ ::
      [⟨.objectBegin "tree", .unknown⟩, ⟨.shape "cone" [], .unknown⟩]
    let lights := (after setup start ds).scene.areaLights
    Fresh start ∧ accepts setup (after setup start before) ⟨.shape "disk" [], .unknown⟩ = true ∧
      lights = emissions setup start [] ds ∧
      lights.map (fun e => (e.name, e.parameters.colorSpace, e.parameters.params.map (·.name))) =
        [("diffuse", .srgb, ["power"]), ("diffuse", .srgb, ["power"])] ∧
      ∃ s e, lastAreaLight? setup start before = some s ∧ Declares setup start before s e ∧
        lights[1]? = some e := by
  intro setup start power scale before ds lights
  have fresh : Fresh start := fresh_initial _
  have accepted : accepts setup (after setup start before) ⟨.shape "disk" [], .unknown⟩ = true := by
    decide +kernel
  obtain ⟨all, shapes⟩ := area_lights_are_snapshots setup fresh ds
  have entities : lights.map
      (fun e => (e.name, e.parameters.colorSpace, e.parameters.params.map (·.name))) =
        [("diffuse", .srgb, ["power"]), ("diffuse", .srgb, ["power"])] := by
    decide +kernel
  have lit : (lastAreaLight? setup start before).isSome = true := by decide +kernel
  have outside : (after setup start before).openObject.isSome = false := by decide +kernel
  have place : (after setup start before).scene.areaLights.length = 1 := by decide +kernel
  obtain ⟨s, last⟩ := Option.isSome_iff_exists.1 lit
  obtain ⟨e, -, declares, added⟩ := (shapes before "disk" [] .unknown _ rfl accepted).2 s last
  rw [outside, if_neg Bool.false_ne_true, place] at added
  exact ⟨fresh, accepted, all, entities, s, e, last, declares, added.2.2.1⟩

end Run

end SceneScript.Builder
