import SceneScript.Proofs.Upgrade.RevisedRules

/-!
# Directives that the rules have nothing to do with

A rule that finds neither its names nor its parameters leaves a dictionary alone, the marks included,
and gives no message (`Rule.Idle`). `idle_rule` says so of every rule: the name of the directive must
be none of `Subject.testedNames`, and no parameter may have one of `Subject.editedNames`.
-/

set_option autoImplicit false

namespace SceneScript

namespace Dictionary

variable {α : Type}

/-- No parameter has one of the names. -/
def Avoids (names : List String) (d : Dictionary α) : Prop :=
  ∀ p ∈ d.params, p.name ∉ names

variable {d : Dictionary α} {names : List String} {name : String} {wanted : Param α → Bool}

theorem markLast_of_absent {es : List (DictEntry α)} (absent : ∀ e ∈ es, wanted e.param = false) :
    markLast wanted es = none := by
  have none : (markLast wanted es).map (·.1) = none := by
    rw [map_fst_markLast, List.find?_eq_none]
    intro p hp
    obtain ⟨e, he, rfl⟩ := List.mem_map.1 (List.mem_reverse.1 hp)
    simp [absent e he]
  exact Option.map_eq_none_iff.1 none

/-- A question about parameters that are not there sets no mark. -/
theorem lookup_of_absent (absent : ∀ p ∈ d.params, wanted p = false) :
    d.lookup wanted = (none, d) := by
  have entry (e : DictEntry α) (he : e ∈ d.entries) : wanted e.param = false :=
    absent e.param (List.mem_map_of_mem he)
  rw [lookup, markLast_of_absent fun e he => entry e (List.mem_append_left _ he),
    markLast_of_absent fun e he => entry e (List.mem_append_right _ he)]

theorem removeWhere_of_absent {dropped : Param α → Bool}
    (absent : ∀ p ∈ d.params, dropped p = false) : d.removeWhere dropped = d := by
  have entry (e : DictEntry α) (he : e ∈ d.entries) : (!dropped e.param) = true := by
    rw [absent e.param (List.mem_map_of_mem he), Bool.not_false]
  have all (es : List (DictEntry α)) (sub : es ⊆ d.entries) :
      es.filter (fun e => !dropped e.param) = es :=
    List.filter_eq_self.2 fun e he => entry e (sub he)
  rw [removeWhere, all d.own (List.subset_append_left _ _),
    all d.inherited (List.subset_append_right _ _)]

namespace Avoids

theorem hasType (avoids : d.Avoids names) (mem : name ∈ names) (type : String) :
    ∀ p ∈ d.params, Dictionary.hasType type name p = false := by
  intro p hp
  exact hasType_of_name_ne fun same => avoids p hp (same ▸ mem)

theorem isColor (avoids : d.Avoids names) (mem : name ∈ names) :
    ∀ p ∈ d.params, Dictionary.isColor name p = false := by
  intro p hp
  exact isColor_of_name_ne fun same => avoids p hp (same ▸ mem)

theorem rename (avoids : d.Avoids names) (mem : name ∈ names) (after : String) :
    d.rename name after = d := by
  have entry (e : DictEntry α) (he : e ∈ d.entries) : renameEntry name after e = e := by
    have other : (e.param.name == name) = false :=
      beq_false_of_ne fun same => avoids e.param (List.mem_map_of_mem he) (same ▸ mem)
    rw [renameEntry, other]
    rfl
  have all (es : List (DictEntry α)) (sub : es ⊆ d.entries) :
      es.map (renameEntry name after) = es :=
    (List.map_congr_left fun e he => entry e (sub he)).trans (List.map_id es)
  rw [Dictionary.rename, all d.own (List.subset_append_left _ _),
    all d.inherited (List.subset_append_right _ _)]

end Avoids

end Dictionary

namespace Rule

variable {α β γ : Type}

/-- The rule finishes with a value, leaves the dictionary as it is, marks included, and gives no
message. -/
def Idle (rule : Rule α β) (d : Dictionary α) (b : β) : Prop :=
  rule.run d = ⟨.ok b, d, []⟩

namespace Idle

variable {rule : Rule α β} {next : β → Rule α γ} {d : Dictionary α} {b : β} {v : γ}
  {names : List String} {name : String}

theorem pure : Idle (Pure.pure b : Rule α β) d b := rfl

theorem bind (first : rule.Idle d b) (second : (next b).Idle d v) : (rule >>= next).Idle d v := by
  rw [Idle, Action.run_bind_of_eq_ok first, second]
  rfl

theorem map (idle : rule.Idle d b) (f : β → γ) : (f <$> rule).Idle d (f b) := by
  rw [map_eq_pure_bind]
  exact idle.bind .pure

/-- A question about a parameter that is not there. -/
theorem ask {type : String} {read : Option (Param α) → β} (avoids : d.Avoids names)
    (mem : name ∈ names) : (look (Dictionary.ask type name read)).Idle d (read none) := by
  rw [Idle, look, Action.run_modifyGet, Dictionary.ask,
    Dictionary.lookup_of_absent (avoids.hasType mem type)]

theorem hasColor (avoids : d.Avoids names) (mem : name ∈ names) :
    (look (Dictionary.hasColor name)).Idle d false := by
  rw [Idle, look, Action.run_modifyGet, Dictionary.hasColor,
    Dictionary.lookup_of_absent (avoids.isColor mem)]
  rfl

theorem remove {type : String} (avoids : d.Avoids names) (mem : name ∈ names) :
    (Rule.remove type name).Idle d () := by
  rw [Idle, Rule.remove, edit, Action.run_modify, Dictionary.remove,
    Dictionary.removeWhere_of_absent (avoids.hasType mem type)]

theorem rename {after : String} (avoids : d.Avoids names) (mem : name ∈ names) :
    (Rule.rename name after).Idle d () := by
  rw [Idle, Rule.rename, edit, Action.run_modify, avoids.rename mem]

end Idle

end Rule

namespace Upgrade

open Rule

/-- The names by which the rule for a kind tells directives apart. -/
def Subject.testedNames : Subject → List String
  | pixelFilter => ["gaussian"]
  | integrator => ["sppm", "directlighting"]
  | camera => ["environment", "realistic"]
  | texture => ["imagemap", "ptex"]
  | material =>
    ["uber", "mix", "substrate", "glass", "plastic", "fourier", "kdsubsurface", "matte", "metal",
      "translucent", "mirror"]
  | light => ["infinite", "projection"]
  | areaLight => ["area"]
  | shape => ["trianglemesh", "bilinearmesh", "loopsubdiv", "plymesh"]

/-- The rule for a kind of directives tests neither for the name nor for one of the parameters. -/
def Subject.Misses {α : Type} (s : Subject) (name : String) (params : List (Param α)) : Prop :=
  name ∉ s.testedNames ∧ ∀ p ∈ params, p.name ∉ s.editedNames

variable {α : Type} [Scalar α] {d : Dictionary α} {names : List String} {name : String}

/-! ## Parts of rules -/

theorem idle_bumpMap (avoids : d.Avoids names) (mem : "bumpmap" ∈ names) :
    (bumpMap : Rule α (List (Param α))).Idle d [] :=
  .bind (.ask avoids mem) .pure

theorem idle_filterRadius {after : String} (avoids : d.Avoids names) (mem : name ∈ names) :
    (filterRadius name after : Rule α (List (Param α))).Idle d [] :=
  .bind (.ask avoids mem) .pure

theorem idle_lightStrategy (avoids : d.Avoids names) (mem : "lightsamplestrategy" ∈ names) :
    (lightStrategy : Rule α (List (Param α))).Idle d [] :=
  .bind (.ask avoids mem) .pure

theorem idle_foldOrRefuse {loc : Location α} {fault : UpgradeFault} {factor : α}
    (avoids : d.Avoids names) (mem : name ∈ names) :
    (foldOrRefuse name loc fault factor).Idle d factor :=
  .bind (.bind (.hasColor avoids mem) .pure) .pure

theorem idle_blackbodyColor {factor : α} (avoids : d.Avoids names) (mem : name ∈ names) :
    (blackbodyColor name factor).Idle d ([], factor) :=
  .bind (.ask avoids mem) .pure

theorem idle_blackbodyColors {factor : α} (avoids : d.Avoids names) (l : "L" ∈ names)
    (i : "I" ∈ names) : (blackbodyColors factor).Idle d ([], factor) :=
  .bind (idle_blackbodyColor avoids l) (.bind (idle_blackbodyColor avoids i) .pure)

theorem idle_mapFile (avoids : d.Avoids names) (mem : "mapname" ∈ names) :
    (mapFile : Rule α (List (Param α))).Idle d [] :=
  .bind (.ask avoids mem) .pure

/-- A factor of one is not written down. -/
theorem idle_scaleWith_one (one : ((1 : α) == 1) = true) :
    (scaleWith (1 : α)).Idle d [] := by
  rw [scaleWith, one]
  exact .pure

/-! ## Rules -/

theorem idle_pixelFilter (untested : name ∉ Subject.pixelFilter.testedNames)
    (avoids : d.Avoids Subject.pixelFilter.editedNames) :
    (pixelFilter name : Rule α (List (Param α))).Idle d [] := by
  have other : name ≠ "gaussian" := fun same => untested (by simp [same, Subject.testedNames])
  rw [pixelFilter]
  refine .bind (idle_filterRadius avoids (by decide)) ?_
  refine .bind (idle_filterRadius avoids (by decide)) ?_
  dsimp only
  rw [if_neg other]
  exact .bind .pure .pure

theorem idle_integrator (untested : name ∉ Subject.integrator.testedNames)
    (avoids : d.Avoids Subject.integrator.editedNames) :
    (integrator name : Rule α (Upgraded α)).Idle d ⟨name, []⟩ := by
  simp only [Subject.testedNames, List.mem_cons, not_or] at untested
  rw [integrator]
  dsimp only
  rw [if_neg untested.1]
  refine .bind .pure (.bind (idle_lightStrategy avoids (by decide)) ?_)
  rw [if_neg untested.2.1]
  exact .pure

theorem idle_camera (untested : name ∉ Subject.camera.testedNames) :
    (camera name : Rule α (Upgraded α)).Idle d ⟨name, []⟩ := by
  simp only [Subject.testedNames, List.mem_cons, not_or] at untested
  rw [camera, if_neg untested.1]
  dsimp only
  rw [if_neg untested.2.1]
  exact .pure

theorem idle_texture (untested : name ∉ Subject.texture.testedNames) :
    (texture name : Rule α (List (Param α))).Idle d [] := by
  simp only [Subject.testedNames, List.mem_cons, not_or] at untested
  rw [texture]
  dsimp only
  rw [if_neg untested.1]
  refine .bind .pure ?_
  rw [if_neg (by simp [untested])]
  exact .pure

theorem idle_materialBody {loc : Location α} (untested : name ∉ Subject.material.testedNames) :
    (materialBody name loc).Idle d ⟨name, []⟩ := by
  unfold materialBody
  split
  case h_12 => exact .pure
  all_goals exact absurd (by decide) untested

theorem idle_material {loc : Location α} (untested : name ∉ Subject.material.testedNames)
    (avoids : d.Avoids Subject.material.editedNames) :
    (material name loc).Idle d ⟨name, []⟩ := by
  have neither : name ≠ "glass" ∧ name ≠ "uber" :=
    ⟨fun same => untested (by simp [same, Subject.testedNames]),
      fun same => untested (by simp [same, Subject.testedNames])⟩
  have refracts : (refraction name loc).Idle d [] := by
    rw [refraction, if_pos neither]
    exact .pure
  exact .bind refracts (.bind (idle_bumpMap avoids (by decide))
    (.bind (idle_materialBody untested) .pure))

theorem idle_light {loc : Location α} (one : ((1 : α) == 1) = true)
    (untested : name ∉ Subject.light.testedNames)
    (avoids : d.Avoids Subject.light.editedNames) :
    (light name loc).Idle d [] := by
  simp only [Subject.testedNames, List.mem_cons, not_or] at untested
  -- without an image, only the projection light asks for its color
  have colorless : (mapColor name loc (1 : α)).Idle d 1 := by
    refine .bind (.ask avoids (show "mapname" ∈ Subject.light.editedNames by decide)) ?_
    rw [if_neg (by simp), if_neg untested.2.1]
    exact .pure
  refine .bind (idle_foldOrRefuse avoids (by decide)) ?_
  refine .bind (idle_blackbodyColors avoids (by decide) (by decide)) ?_
  refine .bind (.remove avoids (by decide)) ?_
  refine .bind colorless ?_
  refine .bind (idle_mapFile avoids (by decide)) ?_
  exact .bind (idle_scaleWith_one one) .pure

theorem idle_areaLight {loc : Location α} (one : ((1 : α) == 1) = true)
    (untested : name ∉ Subject.areaLight.testedNames)
    (avoids : d.Avoids Subject.areaLight.editedNames) :
    (areaLight name loc).Idle d ⟨name, []⟩ := by
  have other : name ≠ "area" := fun same => untested (by simp [same, Subject.testedNames])
  refine .bind (idle_foldOrRefuse avoids (by decide)) ?_
  refine .bind (idle_blackbodyColors avoids (by decide) (by decide)) ?_
  refine .bind (.remove avoids (by decide)) ?_
  refine .bind (idle_scaleWith_one one) ?_
  rw [if_neg other]
  exact .pure

theorem idle_shape (untested : name ∉ Subject.shape.testedNames)
    (avoids : d.Avoids Subject.shape.editedNames) :
    (shape name : Rule α (List (Param α))).Idle d [] := by
  simp only [Subject.testedNames, List.mem_cons, not_or] at untested
  obtain ⟨notTriangles, notBilinear, notSubdivided, notPly, -⟩ := untested
  rw [shape_eq, if_neg (by simp [loneFaceCorners, notTriangles, notBilinear]), if_neg notSubdivided,
    if_neg (by simp [notTriangles, notPly]), if_neg notPly, if_neg notTriangles]
  refine .bind .pure (.bind .pure (.bind .pure (.bind .pure (.bind .pure ?_))))
  exact .bind (idle_bumpMap avoids (by decide)) (.bind (.rename avoids (by decide)) .pure)

/-- A rule is idle for a directive whose name it does not test, on a dictionary without the
parameters that it edits. -/
theorem idle_rule (one : ((1 : α) == 1) = true) (s : Subject) (loc : Location α)
    (untested : name ∉ s.testedNames) (avoids : d.Avoids s.editedNames) :
    (s.rule name loc).Idle d ⟨name, []⟩ := by
  cases s with
  | pixelFilter => exact (idle_pixelFilter untested avoids).map _
  | integrator => exact idle_integrator untested avoids
  | camera => exact idle_camera untested
  | texture => exact (idle_texture untested).map _
  | material => exact idle_material untested avoids
  | light => exact (idle_light one untested avoids).map _
  | areaLight => exact idle_areaLight one untested avoids
  | shape => exact (idle_shape untested avoids).map _

end Upgrade

end SceneScript
