import SceneScript.Proofs.Upgrade.LightParts
import SceneScript.Proofs.Upgrade.OutOfReach

/-!
# Directives that are up to date

For each rule, a condition on the name and the parameters under which it has nothing to do
(`Subject.UpToDate`): it finishes, the name stays, nothing is defined, and all parameters stay where
they are (`rests_rule`). The conditions are about answers, so parameters of other types, with other
numbers of values or under other names do not matter. Only a message may be given once more.
-/

set_option autoImplicit false

namespace SceneScript.Upgrade

open Dictionary Contents Rule

variable {α : Type}

/-! ## The conditions -/

/-- A pixel filter has no width and no falloff that is a single number. -/
structure FilterUpToDate (name : String) (c : Contents α) : Prop where
  width : (c.numbersOf "float" "xwidth").length ≠ 1
  height : (c.numbersOf "float" "ywidth").length ≠ 1
  falloff : name = "gaussian" → (c.numbersOf "float" "alpha").length ≠ 1

/-- An integrator has no name and no parameters of an older one. -/
structure IntegratorUpToDate (name : String) (c : Contents α) : Prop where
  traced : name ≠ "directlighting"
  frequency : name = "sppm" → c.Lacks "integer" "imagewritefrequency"
  iterations : name = "sppm" → c.numbersOf "integer" "numiterations" = []
  strategy : c.word "string" "lightsamplestrategy" ≠ "spatial"

/-- A camera is not an environment, and a realistic one has no simple weighting. -/
structure CameraUpToDate (name : String) (c : Contents α) : Prop where
  perspective : name ≠ "environment"
  weighting : name = "realistic" → c.Lacks "bool" "simpleweighting"

/-- The number "gamma" is given, and it is not zero. -/
def HasGamma [Scalar α] (c : Contents α) : Prop :=
  (((c.numbersOf "float" "gamma").head?.getD 0) != 0) = true

/-- A texture has no filter, file or encoding in an older form. -/
structure TextureUpToDate [Scalar α] (name : String) (c : Contents α) : Prop where
  filter : name = "imagemap" → (c.flags "trilinear").length ≠ 1
  file : name = "imagemap" ∨ name = "ptex" → c.word "string" "filename" = ""
  gamma : name = "imagemap" ∨ name = "ptex" → ¬ HasGamma c
  flag : name = "imagemap" ∨ name = "ptex" → (c.flags "gamma").length ≠ 1

/-- A name for materials that no rule is about. -/
def Present (name : String) : Prop := name ∉ Subject.material.testedNames

instance (name : String) : Decidable (Present name) :=
  inferInstanceAs (Decidable (name ∉ Subject.material.testedNames))

/-- A material has a name that no rule is about, or is one of the two that keep their name. -/
structure MaterialUpToDate (name : String) (c : Contents α) : Prop where
  settled : Present name ∨ name = "fourier" ∨ name = "mix" ∧ c.Colorless "amount"
  bump : c.word "texture" "bumpmap" = ""

/-- The strength of a light is in no color. -/
structure EmissionUpToDate (c : Contents α) : Prop where
  scale : c.Colorless "scale"
  colors : ∀ color ∈ ["L", "I"], ¬ c.HasStrength color
  samples : c.Lacks "integer" "nsamples"

/-- A light has no image in an older form, and a projection light no color. -/
structure LightUpToDate (name : String) (c : Contents α) : Prop where
  emission : EmissionUpToDate c
  map : c.word "string" "mapname" = ""
  projection : name = "projection" → c.Colorless "I"

/-- An area light has no older name. -/
structure AreaLightUpToDate (name : String) (c : Contents α) : Prop where
  emission : EmissionUpToDate c
  diffuse : name ≠ "area"

/-- The mesh is a single face with its corners in order, and says so by indices. -/
def LoneFace [Scalar α] (corners : Nat) (c : Contents α) : Prop :=
  (c.numbersOf "integer" "indices").length = corners ∧
    (triples (c.numbersOf "point3" "P")).length = corners ∧
    countsFrom 0 (c.numbersOf "integer" "indices") = true

/-- No texture coordinates are points named "st" or plain numbers. -/
def CoordinatesUpToDate (c : Contents α) : Prop :=
  pairs (c.numbersOf "point2" "st") = [] ∧
    c.numbersOf "float" "uv" = [] ∧ c.numbersOf "float" "st" = []

/-- A shape has no parameters in an older form, and none with an older name. -/
structure ShapeUpToDate [Scalar α] (name : String) (c : Contents α) : Prop where
  indices : loneFaceCorners name ≠ 0 → ¬ LoneFace (loneFaceCorners name) c
  levels : name = "loopsubdiv" → c.numbersOf "integer" "nlevels" = []
  degenerate : name = "trianglemesh" ∨ name = "plymesh" → c.Lacks "bool" "discarddegenerateUVs"
  file : name = "plymesh" → c.word "string" "filename" = ""
  coordinates : name = "trianglemesh" → CoordinatesUpToDate c
  bump : c.word "texture" "bumpmap" = ""
  reflectance : ∀ p ∈ c.params, p.name ≠ "Kd"

variable {name : String} {c : Contents α}

/-! ## What does not depend on the numbers -/

/-- A part that a directive of another name does not go through, and that has nothing to do. -/
theorem rests_optional {β : Type} {cond : Prop} [Decidable cond] {rule : Rule α β} {b : β}
    (rests : cond → rule.Yields c b c) : (if cond then rule else pure b).Yields c b c := by
  split
  · rename_i holds
    exact rests holds
  · exact .pure

/-- A list of truth values that is no single one is not read. -/
theorem rests_flags {flag : String} {definition : Bool → Param α}
    (several : (c.flags flag).length ≠ 1) :
    Yields (do
      let flags ← look (Dictionary.bools flag)
      match flags with
      | [on] => do
        remove "bool" flag
        return [definition on]
      | _ => return [] : Rule α (List (Param α))) c [] c := by
  refine .bind (.ask (b := c.flags flag) rfl) ?_
  split
  · rename_i one
    exact absurd (by rw [one]; rfl) several
  · exact .pure

/-- Nothing is stripped. -/
theorem EmissionUpToDate.stripped (current : EmissionUpToDate c) : c.stripped = c := by
  rw [Contents.stripped, removeWhere_of_none current.scale,
    withoutStrength_of_not (current.colors "L" (by decide)),
    withoutStrength_of_not (current.colors "I" (by decide)),
    removeWhere_of_none (find?_eq_none_iff.1 current.samples)]

variable [Scalar α] {loc : Location α}

/-- The rule for a kind has nothing to do on a directive. -/
def Subject.UpToDate (s : Subject) (name : String) (c : Contents α) : Prop :=
  match s with
  | pixelFilter => FilterUpToDate name c
  | integrator => IntegratorUpToDate name c
  | camera => CameraUpToDate name c
  | texture => TextureUpToDate name c
  | material => MaterialUpToDate name c
  | light => LightUpToDate name c
  | areaLight => AreaLightUpToDate name c
  | shape => ShapeUpToDate name c

/-! ## Parts of rules -/

theorem rests_file {before after : String} (unnamed : c.word "string" before = "") :
    Yields (do
      let file ← look (Dictionary.oneString before "")
      if file = "" then return []
      else
        remove "string" before
        return [stringDefinition after file] : Rule α (List (Param α))) c [] c := by
  refine .bind (.ask (b := "") unnamed) ?_
  rw [if_pos rfl]
  exact .pure

theorem rests_bumpMap (unnamed : c.word "texture" "bumpmap" = "") :
    (bumpMap : Rule α (List (Param α))).Yields c [] c := by
  rw [bumpMap]
  refine .bind (.ask (b := "") unnamed) ?_
  rw [if_pos rfl]
  exact .pure

theorem rests_filterRadius {before after : String}
    (several : (c.numbersOf "float" before).length ≠ 1) :
    (filterRadius before after : Rule α (List (Param α))).Yields c [] c := by
  rw [filterRadius]
  refine .bind (.ask (b := c.numbersOf "float" before) rfl) ?_
  rw [if_neg several]
  exact .pure

theorem rests_filterFalloff (several : (c.numbersOf "float" "alpha").length ≠ 1) :
    (filterFalloff : Rule α (List (Param α))).Yields c [] c := by
  rw [filterFalloff]
  refine .bind (.ask (b := c.numbersOf "float" "alpha") rfl) ?_
  split
  · rename_i one
    exact absurd (by rw [one]; rfl) several
  · exact .pure

theorem rests_photonIterations (frequency : c.Lacks "integer" "imagewritefrequency")
    (iterations : c.numbersOf "integer" "numiterations" = []) :
    (photonIterations : Rule α (List (Param α))).Yields c [] c := by
  rw [photonIterations]
  exact .bind (.remove_of_lacks frequency) (.bind (.ask iterations) .pure)

theorem rests_lightStrategy (strategy : c.word "string" "lightsamplestrategy" ≠ "spatial") :
    (lightStrategy : Rule α (List (Param α))).Yields c [] c := by
  rw [lightStrategy]
  refine .bind (.ask (b := c.word "string" "lightsamplestrategy") rfl) ?_
  rw [if_neg strategy]
  exact .pure

theorem rests_imageEncoding (noGamma : ¬ HasGamma c) (flag : (c.flags "gamma").length ≠ 1) :
    (imageEncoding : Rule α (List (Param α))).Yields c [] c := by
  rw [HasGamma] at noGamma
  rw [imageEncoding]
  refine .bind (.ask (b := (c.numbersOf "float" "gamma").head?.getD 0) ?_) ?_
  · rw [bind_numbers_head?]
  · rw [if_neg noGamma]
    exact rests_flags flag

/-- An amount without a color draws a message at most. -/
theorem rests_mixAmount (colorless : c.Colorless "amount") : (mixAmount loc).Yields c [] c := by
  rw [mixAmount]
  refine .bind (.ask (bind_ofNumbers?.trans colorless.rgb?)) ?_
  dsimp only
  refine .bind (.hasColor (b := false) ?_) ?_
  · rw [colorless_iff.1 colorless]
    rfl
  · -- the end of the rule, after the message if there is one
    have removes : Yields (do
        let definitions ← pure []
        removeColor "amount"
        return definitions : Rule α (List (Param α))) c [] c :=
      .bind .pure (.bind (.removeColor_of_colorless colorless) .pure)
    rw [if_neg Bool.false_ne_true]
    refine .bind (.ask rfl) (.bind .pure ?_)
    split
    · exact .get fun d _ => .bind .report removes
    · exact removes

theorem rests_loneFace {corners : Nat} (several : ¬ LoneFace corners c) :
    (loneFace corners : Rule α Unit).Yields c () c := by
  rw [loneFace]
  refine .bind (.ask (b := c.numbersOf "integer" "indices") rfl) ?_
  split
  · rename_i indices
    refine .bind (.ask (b := triples (c.numbersOf "point3" "P")) rfl) ?_
    rw [if_neg]
    · exact .pure
    · rw [Bool.and_eq_true, decide_eq_true_iff]
      exact fun face => several ⟨indices, face⟩
  · exact .pure

theorem rests_subdivisionLevels (none : c.numbersOf "integer" "nlevels" = []) :
    (subdivisionLevels : Rule α (List (Param α))).Yields c [] c := by
  rw [subdivisionLevels]
  exact .bind (.ask none) .pure

theorem rests_coordinates (current : CoordinatesUpToDate c) :
    (coordinates : Rule α (List (Param α))).Yields c [] c := by
  have flat {name : String} (none : c.numbersOf "float" name = []) :
      (flatCoordinates name ([] : List (α × α))).Yields c [] c := by
    rw [flatCoordinates]
    exact .bind (.ask none) .pure
  obtain ⟨points, uv, st⟩ := current
  rw [coordinates]
  exact .bind (.ask points) (.bind (flat uv) (.bind (flat st) .pure))

/-! ## Rules -/

theorem rests_pixelFilter (current : FilterUpToDate name c) :
    (pixelFilter name : Rule α (List (Param α))).Yields c [] c := by
  rw [pixelFilter_eq]
  refine .bind (rests_filterRadius current.width) (.bind (rests_filterRadius current.height) ?_)
  exact .bind (rests_optional fun gaussian => rests_filterFalloff (current.falloff gaussian)) .pure

theorem rests_integrator (current : IntegratorUpToDate name c) :
    (integrator name : Rule α (Upgraded α)).Yields c ⟨name, []⟩ c := by
  rw [integrator_eq]
  simp only [if_neg current.traced]
  refine .bind (rests_optional fun sppm => ?_) (.bind (rests_lightStrategy current.strategy) .pure)
  exact rests_photonIterations (current.frequency sppm) (current.iterations sppm)

theorem rests_camera (current : CameraUpToDate name c) :
    (camera name : Rule α (Upgraded α)).Yields c ⟨name, []⟩ c := by
  rw [camera_eq current.perspective]
  exact .bind (rests_optional fun realistic => .remove_of_lacks (current.weighting realistic)) .pure

theorem rests_texture (current : TextureUpToDate name c) :
    (texture name : Rule α (List (Param α))).Yields c [] c := by
  rw [texture_eq]
  refine .bind (rests_optional fun image => rests_flags (current.filter image)) ?_
  refine .bind (rests_optional fun image => rests_file (current.file image)) ?_
  refine .bind (rests_optional fun image => ?_) .pure
  exact rests_imageEncoding (current.gamma image) (current.flag image)

theorem rests_materialBody
    (settled : Present name ∨ name = "fourier" ∨ name = "mix" ∧ c.Colorless "amount") :
    (materialBody name loc).Yields c ⟨name, []⟩ c := by
  rcases settled with untested | rfl | ⟨rfl, colorless⟩
  · -- the last case is that of the names without a rule of their own
    unfold materialBody
    split
    case h_12 => exact .pure
    all_goals exact absurd (by decide) untested
  · exact .bind .report .pure
  · exact .bind (rests_mixAmount colorless) .pure

theorem rests_material (current : MaterialUpToDate name c) :
    (material name loc).Yields c ⟨name, []⟩ c := by
  have neither : name ≠ "glass" ∧ name ≠ "uber" := by
    constructor
    all_goals
      rintro rfl
      exact absurd current.settled (by simp [Present, Subject.testedNames])
  have refracts : (refraction name loc).Yields c [] c := by
    rw [refraction, if_pos neither]
    exact .pure
  exact .bind refracts (.bind (rests_bumpMap current.bump)
    (.bind (rests_materialBody current.settled) .pure))

namespace EmissionUpToDate

variable (current : EmissionUpToDate c)

include current

theorem untinted : ¬ c.Tinted "scale" := fun tinted => tinted.1 current.scale

theorem temperatures : c.temperature "L" ++ c.temperature "I" = [] := by
  rw [temperature_of_not_hasStrength (current.colors "L" (by decide)),
    temperature_of_not_hasStrength (current.colors "I" (by decide)), List.nil_append]

/-- Nothing is collected. -/
theorem collected : c.collected = 1 := by
  rw [Contents.collected, removeWhere_of_none current.scale,
    withoutStrength_of_not (current.colors "L" (by decide)),
    strengthened_of_not (current.colors "L" (by decide)),
    strengthened_of_not (current.colors "I" (by decide)), folded, current.scale.gray?]

end EmissionUpToDate

theorem rests_light (one : ((1 : α) == 1) = true) (current : LightUpToDate name c) :
    (light name loc).Yields c [] c := by
  have emission := current.emission
  -- without an image, only the color of a projection light is asked for
  have surrenders : (mapColor name loc c.collected).Yields c.stripped c.collected c := by
    rw [emission.stripped, emission.collected]
    cases surrendered : c.surrendered? name with
    | none => exact yields_mapColor surrendered
    | some given =>
      obtain ⟨color, fault⟩ := given
      rcases surrendered?_eq_some_iff.1 surrendered with ⟨mapped, -⟩ | ⟨-, projection, same⟩
      · exact absurd current.map mapped
      · cases same
        have colorless := current.projection projection
        have folds : (mapColor name loc (1 : α)).Yields c _ _ :=
          yields_mapColor_of_untinted surrendered fun tinted => tinted.1 colorless
        rwa [folded, colorless.gray?, removeWhere_of_none colorless] at folds
  have yields := yields_light emission.untinted surrenders
  rwa [emission.temperatures, emission.collected, imageDefinition, withoutMap, scaleDefinition,
    withoutScale, if_pos current.map, if_pos current.map, if_pos one, if_pos one] at yields

theorem rests_areaLight (one : ((1 : α) == 1) = true) (current : AreaLightUpToDate name c) :
    (areaLight name loc).Yields c ⟨name, []⟩ c := by
  have emission := current.emission
  have yields : (areaLight name loc).Yields c _ _ := yields_areaLight emission.untinted
  rwa [emission.temperatures, emission.collected, emission.stripped, scaleDefinition, withoutScale,
    if_pos one, if_pos one, if_neg current.diffuse] at yields

theorem rests_shape (current : ShapeUpToDate name c) :
    (shape name : Rule α (List (Param α))).Yields c [] c := by
  rw [shape_eq]
  refine .bind (rests_optional fun mesh => rests_loneFace (current.indices mesh)) ?_
  refine .bind (rests_optional fun subdivided =>
    rests_subdivisionLevels (current.levels subdivided)) ?_
  refine .bind (rests_optional fun mesh =>
    .remove_of_lacks (current.degenerate (by simpa using mesh))) ?_
  refine .bind (rests_optional fun ply => rests_file (current.file ply)) ?_
  refine .bind (rests_optional fun triangles =>
    rests_coordinates (current.coordinates triangles)) ?_
  exact .bind (rests_bumpMap current.bump) (.bind (.rename_of_none current.reflectance) .pure)

/-- A rule has nothing to do on a directive that is up to date. -/
theorem rests_rule (one : ((1 : α) == 1) = true) {s : Subject} (current : s.UpToDate name c) :
    (s.rule name loc).Yields c ⟨name, []⟩ c := by
  cases s with
  | pixelFilter => exact .map (rests_pixelFilter current)
  | integrator => exact rests_integrator current
  | camera => exact rests_camera current
  | texture => exact .map (rests_texture current)
  | material => exact rests_material current
  | light => exact .map (rests_light one current)
  | areaLight => exact rests_areaLight one current
  | shape => exact .map (rests_shape current)

end SceneScript.Upgrade
