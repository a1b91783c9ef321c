import SceneScript.Proofs.Builder.Acceptance

/-!
# Which directive made an entry

The lists of a scene grow at their end, by one entry for one directive. So an entry is traced to its
own directive by its place: of all directives of a run, it is the accepted one that finds the list
ending at this place, and leaves it longer by one (`Enters`).

`Filing` says what a directive adds to a list. From this `exists_entering` finds the directive of an
entry, by induction on the run from its end. The lights, textures, media and still shapes of a scene
are what their own directives made of the builder at that moment (`exists_light_entering` and its
like).
-/

set_option autoImplicit false

namespace SceneScript.Builder

variable {α β : Type} [Scalar α]

/-- The directive is accepted, and adds the entry at place `i` to a list. -/
structure Enters (setup : BuildSetup α) (list : Builder α → List β) (i : Nat) (b : Builder α)
    (d : LocatedDirective α) : Prop where
  accepted : accepts setup b d = true
  before : (list b).length = i
  behind : (list (next setup b d)).length = i + 1

/-- A list is left as it is, or gets one more entry. -/
def LeavesOrAdds (list : Builder α → List β) (b b' : Builder α) (makes : β → Prop) : Prop :=
  list b' = list b ∨ ∃ x, makes x ∧ list b' = list b ++ [x]

variable {setup : BuildSetup α} {start b b' : Builder α}

/-- Every entry of a list has its directive, if no directive does more to the list than to add an
entry. -/
theorem exists_entering {list : Builder α → List β}
    {makes : Builder α → LocatedDirective α → β → Prop} (fresh : Fresh start)
    (empty : list start = [])
    (step : ∀ b d, Reachable setup b → LeavesOrAdds list b (next setup b d) (makes b d))
    (ds : List (LocatedDirective α)) {i : Nat} {x : β}
    (entry : (list (after setup start ds))[i]? = some x) :
    ∃ before d rest, ds = before ++ d :: rest ∧
      Enters setup list i (after setup start before) d ∧ makes (after setup start before) d x := by
  induction ds using List.reverseRecOn with
  | nil => exact absurd entry (by simp [empty])
  | append_singleton ds d ih =>
    have reach : Reachable setup (after setup start ds) := (Reachable.fresh fresh).after ds
    rw [after_append, after_cons, after_nil] at entry
    -- an entry that was there before has its directive further in front
    have earlier (there : (list (after setup start ds))[i]? = some x) :
        ∃ before e rest, ds ++ [d] = before ++ e :: rest ∧
          Enters setup list i (after setup start before) e ∧
          makes (after setup start before) e x := by
      obtain ⟨before, e, rest, rfl, enters, made⟩ := ih there
      exact ⟨before, e, rest ++ [d], by simp, enters, made⟩
    rcases step (after setup start ds) d reach with same | ⟨y, made, longer⟩
    · exact earlier (same ▸ entry)
    · have length := congrArg List.length longer
      rw [List.length_append, List.length_singleton] at length
      rw [longer, List.getElem?_append] at entry
      split at entry
      · exact earlier entry
      · rename_i behind
        rw [List.getElem?_singleton, Option.ite_none_right_eq_some] at entry
        obtain ⟨place, last⟩ := entry
        obtain rfl := Option.some.inj last
        have changed : next setup (after setup start ds) d ≠ after setup start ds := by
          intro same
          rw [same] at length
          omega
        exact ⟨ds, d, [], rfl, ⟨accepts_of_next_ne reach changed, by omega, by omega⟩, made⟩

/-! ## What directives add to the lists of a scene -/

/-- What a directive adds to the lights, textures, media and still shapes of a scene: entries that
it makes of the builder. A still shape is added to the scene if the current transforms do not move
and no object is open. -/
structure Additions (setup : BuildSetup α) (loc : Location α) (b : Builder α) (d : Directive α)
    (b' : Builder α) : Prop where
  lights : LeavesOrAdds (·.scene.lights) b b' fun l => ∃ name params,
    d = .lightSource name params ∧ l = (placedLight setup loc name params b).1
  textures : ∀ kind, LeavesOrAdds (·.scene.textures kind) b b' fun t =>
    ∃ name word implementation params, d = .texture name word implementation params ∧
      t = (placedTexture setup loc name params implementation b).1
  media : LeavesOrAdds (·.scene.media.entries) b b' fun e => ∃ params,
    d = .makeNamedMedium e.1 params ∧ e.2 = (placedMedium setup loc e.1 params b).1
  stillShapes : LeavesOrAdds (·.scene.stillShapes) b b' fun s => ∃ name params,
    d = .shape name params ∧ b.graphics.ctm.moves = false ∧ b.openObject = none ∧
      s = (stillShape setup loc name params b).1

section Additions

variable {loc : Location α} {d : Directive α}

omit [Scalar α] in
theorem textures_left (float : b'.scene.floatTextures = b.scene.floatTextures)
    (spectrum : b'.scene.spectrumTextures = b.scene.spectrumTextures) (kind : TextureKind) :
    b'.scene.textures kind = b.scene.textures kind := by
  cases kind with
  | float => exact float
  | spectrum => exact spectrum

theorem Additions.none (lights : b'.scene.lights = b.scene.lights)
    (float : b'.scene.floatTextures = b.scene.floatTextures)
    (spectrum : b'.scene.spectrumTextures = b.scene.spectrumTextures)
    (media : b'.scene.media = b.scene.media)
    (stillShapes : b'.scene.stillShapes = b.scene.stillShapes) : Additions setup loc b d b' :=
  ⟨Or.inl lights, fun kind => Or.inl (textures_left float spectrum kind),
    Or.inl (congrArg Registry.entries media), Or.inl stillShapes⟩

/-- What a directive files in the scene is among its additions. -/
theorem Filing.additions (filing : Filing setup loc b d b') : Additions setup loc b d b' := by
  cases filing with
  | nothing same _ =>
    rw [same]
    exact .none rfl rfl rfl rfl rfl
  | finished same _ =>
    rw [same]
    unfold finishObject
    split <;> exact .none rfl rfl rfl rfl rfl
  | @texture name word implementation params kind _ =>
    cases kind with
    | float =>
      refine ⟨Or.inl rfl, ?_, Or.inl rfl, Or.inl rfl⟩
      rintro (_ | _)
      · exact Or.inr ⟨_, ⟨name, word, implementation, params, rfl, rfl⟩, rfl⟩
      · exact Or.inl rfl
    | spectrum =>
      refine ⟨Or.inl rfl, ?_, Or.inl rfl, Or.inl rfl⟩
      rintro (_ | _)
      · exact Or.inl rfl
      · exact Or.inr ⟨_, ⟨name, word, implementation, params, rfl, rfl⟩, rfl⟩
  | @medium name params new =>
    exact ⟨Or.inl rfl, fun kind => Or.inl (textures_left rfl rfl kind),
      Or.inr ⟨(name, _), ⟨params, rfl, rfl⟩, Registry.entries_insert_of_new _ new⟩, Or.inl rfl⟩
  | @light name params =>
    exact ⟨Or.inr ⟨_, ⟨name, params, rfl, rfl⟩, rfl⟩,
      fun kind => Or.inl (textures_left rfl rfl kind), Or.inl rfl, Or.inl rfl⟩
  | @stillShape name params _ still =>
    let lit := b.lightUp.withPool (Builder.stillShape setup loc name params b).2
    cases opened : b.openObject with
    | some o =>
      -- the shape belongs to the object
      have inObject : lit.openObject = some o := opened
      rw [addStillShape_of_some inObject]
      exact .none rfl rfl rfl rfl rfl
    | none =>
      have outside : lit.openObject = Option.none := opened
      rw [addStillShape_of_none outside]
      exact ⟨Or.inl rfl, fun kind => Or.inl (textures_left rfl rfl kind), Or.inl rfl,
        Or.inr ⟨_, ⟨name, params, rfl, still, opened, rfl⟩, rfl⟩⟩
  | movingShape _ _ =>
    unfold addMovingShape
    split <;> exact .none rfl rfl rfl rfl rfl
  | _ => exact .none rfl rfl rfl rfl rfl

end Additions

/-! ## The directives of entries -/

section Entries

variable {ds : List (LocatedDirective α)} {i : Nat}

theorem exists_light_entering (fresh : Fresh start) {l : Light α}
    (entry : (after setup start ds).scene.lights[i]? = some l) :
    ∃ before loc name params rest, ds = before ++ ⟨.lightSource name params, loc⟩ :: rest ∧
      Enters setup (·.scene.lights) i (after setup start before)
        ⟨.lightSource name params, loc⟩ ∧
      l = (placedLight setup loc name params (after setup start before)).1 := by
  have empty : start.scene.lights = [] := by
    obtain ⟨settings, pool, rfl⟩ := fresh
    rfl
  obtain ⟨before, ⟨_, loc⟩, rest, split, enters, name, params, rfl, made⟩ :=
    exists_entering fresh empty (fun _ d reach => (filing_interpretAt reach d).additions.lights) ds
      entry
  exact ⟨before, loc, name, params, rest, split, enters, made⟩

theorem exists_texture_entering (fresh : Fresh start) {kind : TextureKind} {t : Texture α}
    (entry : ((after setup start ds).scene.textures kind)[i]? = some t) :
    ∃ before loc name word implementation params rest,
      ds = before ++ ⟨.texture name word implementation params, loc⟩ :: rest ∧
      Enters setup (·.scene.textures kind) i (after setup start before)
        ⟨.texture name word implementation params, loc⟩ ∧
      t = (placedTexture setup loc name params implementation (after setup start before)).1 := by
  have empty : start.scene.textures kind = [] := by
    obtain ⟨settings, pool, rfl⟩ := fresh
    cases kind <;> rfl
  obtain ⟨before, ⟨_, loc⟩, rest, split, enters, name, word, implementation, params, rfl, made⟩ :=
    exists_entering fresh empty
      (fun _ d reach => (filing_interpretAt reach d).additions.textures kind) ds entry
  exact ⟨before, loc, name, word, implementation, params, rest, split, enters, made⟩

theorem exists_medium_entering (fresh : Fresh start) {e : String × Medium α}
    (entry : (after setup start ds).scene.media.entries[i]? = some e) :
    ∃ before loc params rest, ds = before ++ ⟨.makeNamedMedium e.1 params, loc⟩ :: rest ∧
      Enters setup (·.scene.media.entries) i (after setup start before)
        ⟨.makeNamedMedium e.1 params, loc⟩ ∧
      e.2 = (placedMedium setup loc e.1 params (after setup start before)).1 := by
  have empty : start.scene.media.entries = [] := by
    obtain ⟨settings, pool, rfl⟩ := fresh
    rfl
  obtain ⟨before, ⟨_, loc⟩, rest, split, enters, params, rfl, made⟩ :=
    exists_entering fresh empty (fun _ d reach => (filing_interpretAt reach d).additions.media) ds
      entry
  exact ⟨before, loc, params, rest, split, enters, made⟩

/-- A still shape of the scene, that is, of no object. -/
theorem exists_stillShape_entering (fresh : Fresh start) {s : StillShape α}
    (entry : (after setup start ds).scene.stillShapes[i]? = some s) :
    ∃ before loc name params rest, ds = before ++ ⟨.shape name params, loc⟩ :: rest ∧
      Enters setup (·.scene.stillShapes) i (after setup start before) ⟨.shape name params, loc⟩ ∧
      (after setup start before).graphics.ctm.moves = false ∧
      s = (stillShape setup loc name params (after setup start before)).1 := by
  have empty : start.scene.stillShapes = [] := by
    obtain ⟨settings, pool, rfl⟩ := fresh
    rfl
  obtain ⟨before, ⟨_, loc⟩, rest, split, enters, name, params, rfl, still, -, made⟩ :=
    exists_entering fresh empty
      (fun _ d reach => (filing_interpretAt reach d).additions.stillShapes) ds entry
  exact ⟨before, loc, name, params, rest, split, enters, still, made⟩

end Entries

end SceneScript.Builder
