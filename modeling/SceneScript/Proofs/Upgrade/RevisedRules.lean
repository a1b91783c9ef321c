import Mathlib.Tactic.SplitIfs
import SceneScript.Proofs.Upgrade.Revision

/-!
# Every rule revises its dictionary

One lemma for each upgrade rule, in the order of the rules: images, textures, materials, lights and
shapes. `Subject` lists the kinds of directives whose parameters are upgraded, with the rule of each
kind, and `revised_rule` says of all of them what they do.
-/

set_option autoImplicit false

namespace SceneScript.Upgrade

open Contents Rule

/-- The kinds of directives whose parameters are brought up to date. -/
inductive Subject where
  | pixelFilter
  | integrator
  | camera
  | texture
  | material
  | light
  | areaLight
  | shape

namespace Subject

/-- The rule for directives of a kind, by the name of the directive, or of its implementation. Where
a rule cannot change that name, it finishes with the same one. -/
def rule {α : Type} [Scalar α] (s : Subject) (name : String) (loc : Location α) :
    Rule α (Upgraded α) :=
  match s with
  | pixelFilter => Upgraded.mk name <$> Upgrade.pixelFilter name
  | integrator => Upgrade.integrator name
  | camera => Upgrade.camera name
  | texture => Upgraded.mk name <$> Upgrade.texture name
  | material => Upgrade.material name loc
  | light => Upgraded.mk name <$> Upgrade.light name loc
  | areaLight => Upgrade.areaLight name loc
  | shape => Upgraded.mk name <$> Upgrade.shape name

/-- The names of the parameters that the rule for a kind deletes or renames. -/
def editedNames : Subject → List String
  | pixelFilter => ["xwidth", "ywidth", "alpha"]
  | integrator => ["imagewritefrequency", "numiterations", "lightsamplestrategy"]
  | camera => ["simpleweighting"]
  | texture => ["trilinear", "filename", "gamma"]
  | material =>
    ["index", "bumpmap", "Ks", "Kr", "Kt", "reflect", "transmit", "eta", "roughness", "Kd",
      "opacity", "amount"]
  | light => ["scale", "L", "I", "nsamples", "mapname"]
  | areaLight => ["scale", "L", "I", "nsamples"]
  | shape =>
    ["indices", "nlevels", "discarddegenerateUVs", "filename", "st", "uv", "bumpmap", "Kd"]

end Subject

/-- The names of the parameters that the material itself makes the rule delete or rename. -/
def materialBodyNames : List String :=
  ["Ks", "Kr", "Kt", "reflect", "transmit", "eta", "roughness", "Kd", "opacity", "amount"]

variable {α : Type} {names : List String} {c : Contents α}

/-! ## Parts of rules -/

section Parts

variable {β γ : Type} {defined : β → List (Param α)} {results : γ → List (Param α)}
  {next : β → Rule α γ} {c₀ : Contents α}

/-- A rule that revises the dictionary, before the rest of a rule. -/
theorem revised_bind {rule : Rule α β} (first : rule.Leaves c fun b => Revised names c (defined b))
    (second : ∀ b c', Revised names c (defined b) c' →
      (next b).Leaves c' fun v => Revised names c₀ (results v)) :
    Leaves (rule >>= next) c fun v => Revised names c₀ (results v) :=
  first.bind second

/-- A rule that only deletes or renames, before the rest of a rule. -/
theorem trimmed_bind {rule : Rule α β} (first : rule.Leaves c fun _ => Trimmed names c)
    (second : ∀ b c', Trimmed names c c' →
      (next b).Leaves c' fun v => Revised names c₀ (results v)) :
    Leaves (rule >>= next) c fun v => Revised names c₀ (results v) :=
  first.bind second

/-- Two rules that only delete or rename. -/
theorem trimmed_seq {rule : Rule α β} (first : rule.Leaves c fun _ => Trimmed names c)
    (second : ∀ b c', Trimmed names c c' → (next b).Leaves c' fun _ => Trimmed names c₀) :
    Leaves (rule >>= next) c fun _ => Trimmed names c₀ :=
  first.bind second

/-- A rule that leaves the dictionary alone and defines nothing. -/
theorem revised_nothing : Leaves (pure [] : Rule α (List (Param α))) c (Revised names c) :=
  .pure .refl

theorem trimmed_remove {type name : String} (mem : name ∈ names) :
    Leaves (remove type name : Rule α Unit) c fun _ => Trimmed names c :=
  .remove (.remove mem)

theorem trimmed_removeColor {name : String} (mem : name ∈ names) :
    Leaves (removeColor name : Rule α Unit) c fun _ => Trimmed names c :=
  .removeColor (.removeColor mem)

theorem trimmed_rename {after : String} (present : after ∈ presentNames) (mem : "Kd" ∈ names) :
    Leaves (rename "Kd" after : Rule α Unit) c fun _ => Trimmed names c :=
  .rename (.rename present mem)

/-- A part of a rule that not every directive goes through. -/
theorem trimmed_optional {cond : Prop} [Decidable cond] {rule : Rule α Unit}
    (trimmed : rule.Leaves c fun _ => Trimmed names c) :
    Leaves (if cond then rule else pure ()) c fun _ => Trimmed names c := by
  split
  · exact trimmed
  · exact .pure .refl

/-- A part of a rule that not every directive goes through. -/
theorem revised_optional {cond : Prop} [Decidable cond] {rule : Rule α (List (Param α))}
    (revised : rule.Leaves c (Revised names c)) :
    Leaves (if cond then rule else pure []) c (Revised names c) := by
  split
  · exact revised
  · exact revised_nothing

theorem trimmed_forEach {items : List String} (type : String) (mem : items ⊆ names) :
    Leaves (Action.forEach (remove type) items : Rule α Unit) c fun _ => Trimmed names c := by
  induction items generalizing c with
  | nil => exact .pure .refl
  | cons name rest ih =>
    rw [List.cons_subset] at mem
    refine trimmed_seq (trimmed_remove mem.1) fun _ c₁ first => ?_
    exact (ih mem.2).mono fun _ _ => first.trans

theorem trimmed_flatCoordinates {name : String} (found : List (α × α)) (mem : name ∈ names) :
    Leaves (flatCoordinates name found) c fun _ => Trimmed names c := by
  rw [flatCoordinates]
  apply Leaves.ask
  split
  · exact .pure .refl
  · exact trimmed_seq (trimmed_remove mem) fun _ _ h => .pure h

end Parts

variable [Scalar α]

/-- A parameter that is replaced by a definition under another type or name. -/
theorem revised_replace {oldType old type name : String} {values : List (ParamValue α)}
    (mem : old ∈ names) (key : FreeKey type name) :
    Leaves (do
      remove oldType old
      return [.define type name values] : Rule α (List (Param α))) c (Revised names c) := by
  refine trimmed_bind (trimmed_remove mem) fun _ c₁ trimmed => .pure ?_
  exact .single trimmed (.of_trimmed key trimmed)

/-- A parameter that is replaced by a definition under its own type and name. -/
theorem revised_restate {type name : String} {values : List (ParamValue α)} (mem : name ∈ names)
    (modern : modernType type = type) (fresh : name ∉ presentNames) :
    Leaves (do
      remove type name
      return [.define type name values] : Rule α (List (Param α))) c (Revised names c) := by
  apply Leaves.remove_bind
  refine .pure (.single (.remove mem) (.of_removed modern fresh fun q left => ?_))
  exact (Contents.mem_params_removeWhere.1 left).2

/-- A file that is named by another parameter. -/
theorem revised_file {before after : String} (mem : before ∈ names) (key : FreeKey "string" after) :
    Leaves (do
      let file ← look (Dictionary.oneString before "")
      if file = "" then return []
      else
        remove "string" before
        return [stringDefinition after file] : Rule α (List (Param α))) c (Revised names c) := by
  apply Leaves.ask
  split
  · exact revised_nothing
  · exact revised_replace mem key

theorem revised_bumpMap (mem : "bumpmap" ∈ names) :
    Leaves (bumpMap : Rule α (List (Param α))) c (Revised names c) := by
  rw [bumpMap]
  apply Leaves.ask
  split
  · exact revised_nothing
  · exact revised_replace mem (by decide)

/-! ## Images -/

theorem revised_filterRadius {before after : String} (mem : before ∈ names)
    (key : FreeKey "float" after) :
    Leaves (filterRadius before after : Rule α (List (Param α))) c (Revised names c) := by
  rw [filterRadius]
  apply Leaves.ask
  split
  · exact revised_replace mem key
  · exact revised_nothing

theorem revised_filterFalloff (mem : "alpha" ∈ names) :
    Leaves (filterFalloff : Rule α (List (Param α))) c (Revised names c) := by
  rw [filterFalloff]
  apply Leaves.ask
  split
  · exact revised_replace mem (by decide)
  · exact revised_nothing

/-- The rule for pixel filters with its optional part in a row. -/
theorem pixelFilter_eq (name : String) :
    (pixelFilter name : Rule α (List (Param α))) =
      filterRadius "xwidth" "xradius" >>= fun x => filterRadius "ywidth" "yradius" >>= fun y =>
      (if name = "gaussian" then filterFalloff else pure []) >>= fun falloff =>
      pure (x ++ y ++ falloff) := by
  rw [pixelFilter]
  split_ifs <;> rfl

theorem revised_pixelFilter (name : String) :
    Leaves (pixelFilter name : Rule α (List (Param α))) c
      (Revised Subject.pixelFilter.editedNames c) := by
  rw [pixelFilter_eq]
  refine revised_bind (revised_filterRadius (by decide) (by decide)) fun x c₁ hx => ?_
  refine revised_bind (revised_filterRadius (by decide) (by decide)) fun y c₂ hy => ?_
  refine revised_bind (revised_optional (revised_filterFalloff (by decide)))
    fun falloff c₃ hfalloff => .pure ?_
  exact (hx.append hy).append hfalloff

theorem revised_photonIterations (frequency : "imagewritefrequency" ∈ names)
    (iterations : "numiterations" ∈ names) :
    Leaves (photonIterations : Rule α (List (Param α))) c (Revised names c) := by
  rw [photonIterations]
  refine trimmed_bind (trimmed_remove frequency) fun _ c₁ removed => ?_
  apply Leaves.ask
  split
  · exact .pure (.trim removed)
  · exact (revised_replace iterations (by decide)).mono fun _ _ => .afterTrim removed

theorem revised_lightStrategy (mem : "lightsamplestrategy" ∈ names) :
    Leaves (lightStrategy : Rule α (List (Param α))) c (Revised names c) := by
  rw [lightStrategy]
  apply Leaves.ask
  split
  · exact revised_restate mem rfl (by decide)
  · exact revised_nothing

/-- The rule for integrators with its optional part in a row. -/
theorem integrator_eq (name : String) :
    (integrator name : Rule α (Upgraded α)) =
      (if name = "sppm" then photonIterations else pure []) >>= fun photons =>
      lightStrategy >>= fun strategy =>
      pure (if name = "directlighting" then
        ⟨"path", photons ++ strategy ++ [intDefinition "maxdepth" 1]⟩
      else ⟨name, photons ++ strategy⟩) := by
  rw [integrator]
  split_ifs <;> rfl

theorem revised_integrator (name : String) :
    Leaves (integrator name : Rule α (Upgraded α)) c fun u =>
      Revised Subject.integrator.editedNames c u.definitions := by
  rw [integrator_eq]
  refine revised_bind (revised_optional (revised_photonIterations (by decide) (by decide)))
    fun photons c₁ hphotons => ?_
  refine revised_bind (revised_lightStrategy (by decide)) fun strategy c₂ hstrategy => .pure ?_
  have both := hphotons.append hstrategy
  split
  · exact both.append (.single .refl (.beside (by decide)))
  · exact both

/-- The rule for cameras that are no environments, with its optional part in a row. -/
theorem camera_eq {name : String} (other : name ≠ "environment") :
    (camera name : Rule α (Upgraded α)) =
      (if name = "realistic" then remove "bool" "simpleweighting" else pure ()) >>= fun _ =>
      pure ⟨name, []⟩ := by
  rw [camera, if_neg other]
  split_ifs <;> rfl

theorem revised_camera (name : String) :
    Leaves (camera name : Rule α (Upgraded α)) c fun u =>
      Revised Subject.camera.editedNames c u.definitions := by
  by_cases environment : name = "environment"
  · rw [camera, if_pos environment]
    exact .pure (.single .refl (.beside (by decide)))
  · rw [camera_eq environment]
    exact trimmed_bind (trimmed_optional (trimmed_remove (by decide)))
      fun _ _ removed => .pure (.trim removed)

/-! ## Textures -/

theorem revised_imageFilter (mem : "trilinear" ∈ names) :
    Leaves (imageFilter : Rule α (List (Param α))) c (Revised names c) := by
  rw [imageFilter]
  apply Leaves.ask
  split
  · exact revised_replace mem (by decide)
  · exact revised_nothing

theorem revised_imageEncoding (mem : "gamma" ∈ names) :
    Leaves (imageEncoding : Rule α (List (Param α))) c (Revised names c) := by
  rw [imageEncoding]
  apply Leaves.ask
  split
  · exact revised_replace mem (by decide)
  · apply Leaves.ask
    split
    · exact revised_replace mem (by decide)
    · exact revised_nothing

/-- The rule for textures with its optional parts in a row. -/
theorem texture_eq (name : String) :
    (texture name : Rule α (List (Param α))) =
      (if name = "imagemap" then imageFilter else pure []) >>= fun filter =>
      (if name = "imagemap" ∨ name = "ptex" then imageFile else pure []) >>= fun file =>
      (if name = "imagemap" ∨ name = "ptex" then imageEncoding else pure []) >>= fun encoding =>
      pure (filter ++ file ++ encoding) := by
  rw [texture]
  simp only [Bool.or_eq_true, decide_eq_true_iff]
  split_ifs <;> simp

theorem revised_texture (implementation : String) :
    Leaves (texture implementation : Rule α (List (Param α))) c
      (Revised Subject.texture.editedNames c) := by
  rw [texture_eq]
  refine revised_bind (revised_optional (revised_imageFilter (by decide))) fun filter c₁ hfilter => ?_
  refine revised_bind (revised_optional (revised_file (by decide) (by decide)))
    fun file c₂ hfile => ?_
  refine revised_bind (revised_optional (revised_imageEncoding (by decide)))
    fun encoding c₃ hencoding => .pure ?_
  exact (hfilter.append hfile).append hencoding

/-! ## Materials -/

theorem revised_refraction (name : String) (loc : Location α) (mem : "index" ∈ names) :
    Leaves (refraction name loc) c (Revised names c) := by
  rw [refraction]
  split
  · exact revised_nothing
  · apply Leaves.ask
    split
    · apply Leaves.ask
      split
      · exact .refuse _ _
      · exact revised_replace mem (by decide)
    · apply Leaves.ask
      split
      · exact revised_nothing
      · apply Leaves.ask
        split
        · exact .refuse _ _
        · exact revised_replace mem (by decide)
      · exact .refuse _ _

theorem trimmed_dropColor (loc : Location α) (target : String) {name : String} (neutral : α)
    (mem : name ∈ names) :
    Leaves (dropColor loc target name neutral) c fun _ => Trimmed names c := by
  rw [dropColor]
  apply Leaves.ask
  -- the removal, which comes after the message if there is one
  have rest (harmless : Bool) : Leaves (do
      removeColor name
      remove "texture" name
      return harmless : Rule α Bool) c fun _ => Trimmed names c := by
    refine trimmed_seq (trimmed_removeColor mem) fun _ c₁ first => ?_
    refine trimmed_seq (trimmed_remove mem) fun _ c₂ second => .pure ?_
    exact first.trans second
  dsimp only
  split
  · apply Leaves.hasColor
    split
    · exact .get fun d _ => .report (rest _)
    · exact rest _
  · exact rest _

theorem trimmed_opacity (loc : Location α) (mem : "opacity" ∈ names) :
    Leaves (opacity loc) c fun _ => Trimmed names c := by
  rw [opacity]
  apply Leaves.ask
  split
  · exact .refuse _ _
  · apply Leaves.hasColor
    split
    · apply Leaves.ask
      split
      · exact trimmed_removeColor mem
      · exact .refuse _ _
    · exact .pure .refl

theorem trimmed_coated (loc : Location α) {coat : List String} (mem : "Ks" :: coat ⊆ names) :
    Leaves (coated loc coat) c fun _ => Trimmed names c := by
  rw [List.cons_subset] at mem
  rw [coated]
  refine trimmed_seq (trimmed_dropColor loc _ 0 mem.1) fun matte c₁ first => ?_
  split
  · refine trimmed_seq (trimmed_forEach "float" mem.2) fun _ c₂ second => .pure ?_
    exact first.trans second
  · exact .pure first

theorem revised_mixAmount (loc : Location α) (mem : "amount" ∈ names) :
    Leaves (mixAmount loc) c (Revised names c) := by
  rw [mixAmount]
  -- what the amount becomes, once it is taken out
  have rest {ps : List (Param α)} (introduced : ∀ c', Trimmed names c c' →
      ∀ p ∈ ps, Introduced c c' p) : Leaves (do
        removeColor "amount"
        return ps : Rule α (List (Param α))) c (Revised names c) := by
    refine trimmed_bind (trimmed_removeColor mem) fun _ c₁ removed => .pure ?_
    exact ⟨removed, introduced c₁ removed⟩
  have amount (x : α) : ∀ c', Trimmed names c c' →
      ∀ p ∈ [floatDefinition "amount" x], Introduced c c' p := by
    intro c' trimmed p hp
    obtain rfl := List.mem_singleton.1 hp
    exact .of_trimmed (by decide) trimmed
  have nothing : ∀ c', Trimmed names c c' → ∀ p ∈ ([] : List (Param α)), Introduced c c' p := by
    simp
  apply Leaves.ask
  dsimp only
  split
  · split
    · exact .pure_bind (rest (amount _))
    · exact .report (.pure_bind (rest (amount _)))
  · -- a color that is no rgb color, or a texture, draws a message
    have reported (unusable : Bool) : Leaves (do
        if unusable then
          let d ← Action.get
          report .error loc
            ("Unable to update non-RGB spectrum \"amount\" to a scalar: " ++ d.definition "amount")
        removeColor "amount"
        return [] : Rule α (List (Param α))) c (Revised names c) := by
      split
      · exact .get fun d _ => .report (rest nothing)
      · exact rest nothing
    apply Leaves.hasColor
    split
    · exact .pure_bind (reported true)
    · exact .ask (.pure_bind (reported _))

theorem trimmed_uber (loc : Location α) :
    Leaves (uber loc) c fun _ => Trimmed materialBodyNames c := by
  rw [uber]
  refine trimmed_seq (trimmed_coated loc (by decide)) fun name c₁ h₁ => ?_
  refine trimmed_seq (trimmed_dropColor loc _ 0 (by decide)) fun _ c₂ h₂ => ?_
  refine trimmed_seq (trimmed_dropColor loc _ 0 (by decide)) fun _ c₃ h₃ => ?_
  refine trimmed_seq (trimmed_rename (by decide) (by decide)) fun _ c₄ h₄ => ?_
  refine trimmed_seq (trimmed_opacity loc (by decide)) fun _ c₅ h₅ => .pure ?_
  exact (((h₁.trans h₂).trans h₃).trans h₄).trans h₅

theorem trimmed_substrate (loc : Location α) :
    Leaves (substrate loc) c fun _ => Trimmed materialBodyNames c := by
  rw [substrate]
  refine trimmed_seq (trimmed_dropColor loc _ 1 (by decide)) fun _ c₁ h₁ => ?_
  refine trimmed_seq (trimmed_rename (by decide) (by decide)) fun _ c₂ h₂ => .pure ?_
  exact h₁.trans h₂

theorem trimmed_glass (loc : Location α) :
    Leaves (glass loc) c fun _ => Trimmed materialBodyNames c := by
  rw [glass]
  refine trimmed_seq (trimmed_dropColor loc _ 1 (by decide)) fun _ c₁ h₁ => ?_
  refine trimmed_seq (trimmed_dropColor loc _ 1 (by decide)) fun _ c₂ h₂ => .pure ?_
  exact h₁.trans h₂

theorem trimmed_plastic (loc : Location α) :
    Leaves (plastic loc) c fun _ => Trimmed materialBodyNames c := by
  rw [plastic]
  refine trimmed_seq (trimmed_coated loc (by decide)) fun _ c₁ h₁ => ?_
  refine trimmed_seq (trimmed_rename (by decide) (by decide)) fun _ c₂ h₂ => .pure ?_
  exact h₁.trans h₂

theorem trimmed_metal (loc : Location α) :
    Leaves (metal loc) c fun _ => Trimmed materialBodyNames c := by
  rw [metal]
  exact trimmed_seq (trimmed_dropColor loc _ 1 (by decide)) fun _ _ h => .pure h

theorem trimmed_translucent (loc : Location α) :
    Leaves (translucent loc) c fun _ => Trimmed materialBodyNames c := by
  rw [translucent]
  refine trimmed_seq (trimmed_rename (by decide) (by decide)) fun _ c₁ h₁ => ?_
  refine trimmed_seq (trimmed_dropColor loc _ 0 (by decide)) fun _ c₂ h₂ => ?_
  refine trimmed_seq (trimmed_dropColor loc _ 1 (by decide)) fun _ c₃ h₃ => ?_
  refine trimmed_seq (trimmed_dropColor loc _ 0 (by decide)) fun _ c₄ h₄ => ?_
  refine trimmed_seq (trimmed_remove (by decide)) fun _ c₅ h₅ => .pure ?_
  exact (((h₁.trans h₂).trans h₃).trans h₄).trans h₅

theorem revised_materialBody (name : String) (loc : Location α) :
    Leaves (materialBody name loc) c fun u =>
      Revised materialBodyNames c u.definitions := by
  -- a material that has another name from now on, and no definitions
  have renamed {rule : Rule α String}
      (trimmed : rule.Leaves c fun _ => Trimmed materialBodyNames c) :
      Leaves (do return ⟨← rule, []⟩ : Rule α (Upgraded α)) c fun u =>
        Revised materialBodyNames c u.definitions :=
    trimmed_bind trimmed fun _ _ h => .pure (.trim h)
  have reflectance (present : String) : Leaves (do
      rename "Kd" "reflectance"
      return ⟨present, []⟩ : Rule α (Upgraded α)) c fun u =>
        Revised materialBodyNames c u.definitions :=
    trimmed_bind (trimmed_rename (by decide) (by decide)) fun _ _ h => .pure (.trim h)
  unfold materialBody
  split
  · exact renamed (trimmed_uber loc)
  · exact revised_bind (revised_mixAmount loc (by decide)) fun _ _ h => .pure h
  · exact renamed (trimmed_substrate loc)
  · exact renamed (trimmed_glass loc)
  · exact renamed (trimmed_plastic loc)
  · exact .report (.pure .refl)
  · exact reflectance _
  · exact reflectance _
  · exact renamed (trimmed_metal loc)
  · exact renamed (trimmed_translucent loc)
  · refine trimmed_bind (trimmed_dropColor loc _ 0 (by decide)) fun _ c₁ h => .pure ⟨h, ?_⟩
    intro p hp
    have silver : p ∈ [_, _, _] := hp
    rcases (by simpa using silver) with rfl | rfl | rfl <;> exact .of_trimmed (by decide) h
  · exact .pure .refl

theorem revised_material (name : String) (loc : Location α) :
    Leaves (material name loc) c fun u =>
      Revised Subject.material.editedNames c u.definitions := by
  rw [material]
  refine revised_bind (revised_refraction name loc (by decide)) fun eta c₁ heta => ?_
  refine revised_bind (revised_bumpMap (by decide)) fun bump c₂ hbump => ?_
  refine revised_bind ((revised_materialBody name loc).mono fun _ _ h => h.mono (by decide))
    fun body c₃ hbody => .pure ?_
  exact (heta.append hbump).append hbody

/-! ## Lights -/

theorem trimmed_foldColor {name : String} (factor : α) (mem : name ∈ names) :
    Leaves (foldColor name factor) c fun _ => Trimmed names c := by
  rw [foldColor]
  apply Leaves.hasColor
  split
  · exact .pure .refl
  · apply Leaves.ask
    split
    · exact .pure .refl
    · split
      · exact trimmed_seq (trimmed_removeColor mem) fun _ _ h => .pure h
      · exact .pure .refl

theorem trimmed_foldOrRefuse {name : String} (loc : Location α) (fault : UpgradeFault) (factor : α)
    (mem : name ∈ names) :
    Leaves (foldOrRefuse name loc fault factor) c fun _ => Trimmed names c := by
  rw [foldOrRefuse]
  refine trimmed_seq (trimmed_foldColor factor mem) fun folded c₁ h => ?_
  split
  · exact .pure h
  · have placed : (placeOf name loc).Leaves c₁ fun _ _ => True := fun _ _ _ _ => trivial
    exact placed.bind fun place _ _ => .refuse place fault

/-- All there is of a blackbody color is taken out, then its temperature is put in. -/
theorem revised_blackbodyColor {name : String} (factor : α) (scale : "scale" ∈ names)
    (mem : name ∈ names) (fresh : name ∉ presentNames) :
    Leaves (blackbodyColor name factor) c fun r => Revised names c r.1 := by
  rw [blackbodyColor]
  apply Leaves.ask
  split
  · rename_i temperature strength _ _
    apply Leaves.ask
    refine trimmed_bind (trimmed_remove scale) fun _ c₁ h => ?_
    apply Leaves.removeColor_bind
    have trimmed : Trimmed names c₁ (c₁.removeWhere (Dictionary.isColor name)) := .removeColor mem
    refine .pure (.single (h.trans trimmed) (.of_removed rfl fresh fun q left => ?_))
    have dropped := (Contents.mem_params_removeWhere.1 left).2
    apply Bool.eq_false_iff.2
    intro has
    exact absurd (Dictionary.isColor_of_hasType (by decide) has) (by simp [dropped])
  · exact .pure .refl

theorem revised_blackbodyColors (factor : α) (scale : "scale" ∈ names) (l : "L" ∈ names)
    (i : "I" ∈ names) :
    Leaves (blackbodyColors factor) c fun r => Revised names c r.1 := by
  rw [blackbodyColors]
  refine revised_bind (revised_blackbodyColor factor scale l (by decide)) fun r c₁ h₁ => ?_
  refine revised_bind (revised_blackbodyColor r.2 scale i (by decide)) fun r' c₂ h₂ => .pure ?_
  exact h₁.append h₂

theorem revised_scaleWith (factor : α) (mem : "scale" ∈ names) :
    Leaves (scaleWith factor) c (Revised names c) := by
  rw [scaleWith]
  split
  · exact revised_nothing
  · apply Leaves.ask
    exact revised_restate mem rfl (by decide)

theorem trimmed_mapColor (name : String) (loc : Location α) (factor : α) (l : "L" ∈ names)
    (i : "I" ∈ names) :
    Leaves (mapColor name loc factor) c fun _ => Trimmed names c := by
  rw [mapColor]
  apply Leaves.ask
  split
  · split
    · exact trimmed_foldOrRefuse loc _ factor l
    · exact .pure .refl
  · split
    · exact trimmed_foldOrRefuse loc _ factor i
    · exact .pure .refl

theorem revised_light (name : String) (loc : Location α) :
    Leaves (light name loc) c (Revised Subject.light.editedNames c) := by
  rw [light]
  refine trimmed_bind (trimmed_foldOrRefuse loc _ 1 (by decide)) fun factor c₁ h₁ => ?_
  refine revised_bind (revised_blackbodyColors factor (by decide) (by decide) (by decide))
    fun colors c₂ h₂ => ?_
  refine trimmed_bind (trimmed_remove (by decide)) fun _ c₃ h₃ => ?_
  refine trimmed_bind (trimmed_mapColor name loc colors.2 (by decide) (by decide))
    fun factor c₄ h₄ => ?_
  refine revised_bind (revised_file (by decide) (by decide)) fun file c₅ h₅ => ?_
  refine revised_bind (revised_scaleWith factor (by decide)) fun scale c₆ h₆ => .pure ?_
  have known : Revised Subject.light.editedNames c colors.1 c₄ :=
    ((h₂.afterTrim h₁).andThen h₃).andThen h₄
  exact (known.append h₅).append h₆

theorem revised_areaLight (name : String) (loc : Location α) :
    Leaves (areaLight name loc) c fun u =>
      Revised Subject.areaLight.editedNames c u.definitions := by
  rw [areaLight]
  refine trimmed_bind (trimmed_foldOrRefuse loc _ 1 (by decide)) fun factor c₁ h₁ => ?_
  refine revised_bind (revised_blackbodyColors factor (by decide) (by decide) (by decide))
    fun colors c₂ h₂ => ?_
  refine trimmed_bind (trimmed_remove (by decide)) fun _ c₃ h₃ => ?_
  refine revised_bind (revised_scaleWith colors.2 (by decide)) fun scale c₄ h₄ => .pure ?_
  exact ((h₂.afterTrim h₁).andThen h₃).append h₄

/-! ## Shapes -/

theorem trimmed_loneFace (corners : Nat) (mem : "indices" ∈ names) :
    Leaves (loneFace corners : Rule α Unit) c fun _ => Trimmed names c := by
  rw [loneFace]
  apply Leaves.ask
  split
  · apply Leaves.ask
    split
    · exact trimmed_remove mem
    · exact .pure .refl
  · exact .pure .refl

theorem revised_subdivisionLevels (mem : "nlevels" ∈ names) :
    Leaves (subdivisionLevels : Rule α (List (Param α))) c (Revised names c) := by
  rw [subdivisionLevels]
  apply Leaves.ask
  split
  · exact revised_nothing
  · exact revised_replace mem (by decide)

theorem revised_coordinates (st : "st" ∈ names) (uv : "uv" ∈ names) :
    Leaves (coordinates : Rule α (List (Param α))) c (Revised names c) := by
  rw [coordinates]
  apply Leaves.ask
  -- the points that were found, in their present form
  have rest {found : List (α × α)} {c₁ : Contents α} (trimmed : Trimmed names c c₁) : Leaves (do
      if found.isEmpty then return []
      else
        return [.define "point2" "uv" (found.flatMap (fun p => [.number p.1, .number p.2]))] :
          Rule α (List (Param α))) c₁ (Revised names c) := by
    split
    · exact .pure (.trim trimmed)
    · exact .pure (.single trimmed (.of_trimmed (by decide) trimmed))
  dsimp only
  split
  · exact trimmed_bind (trimmed_remove st) fun _ c₁ h₁ => .pure_bind (rest h₁)
  · refine trimmed_bind (trimmed_flatCoordinates [] uv) fun found c₁ h₁ => ?_
    exact trimmed_bind (trimmed_flatCoordinates found st) fun _ c₂ h₂ => rest (h₁.trans h₂)

/-- The rule for shapes with its optional parts in a row. -/
theorem shape_eq (name : String) :
    (shape name : Rule α (List (Param α))) =
      (if loneFaceCorners name ≠ 0 then loneFace (loneFaceCorners name) else pure ()) >>= fun _ =>
      (if name = "loopsubdiv" then subdivisionLevels else pure []) >>= fun levels =>
      (if name = "trianglemesh" || name = "plymesh" then remove "bool" "discarddegenerateUVs"
        else pure ()) >>= fun _ =>
      (if name = "plymesh" then meshFile else pure []) >>= fun file =>
      (if name = "trianglemesh" then coordinates else pure []) >>= fun uv =>
      bumpMap >>= fun bump =>
      rename "Kd" "reflectance" >>= fun _ => pure (levels ++ file ++ uv ++ bump) := by
  rw [shape]
  split_ifs <;> rfl

theorem revised_shape (name : String) :
    Leaves (shape name : Rule α (List (Param α))) c (Revised Subject.shape.editedNames c) := by
  rw [shape_eq]
  refine trimmed_bind (trimmed_optional (trimmed_loneFace _ (by decide))) fun _ c₁ h₁ => ?_
  refine revised_bind (revised_optional (revised_subdivisionLevels (by decide)))
    fun levels c₂ h₂ => ?_
  refine trimmed_bind (trimmed_optional (trimmed_remove (by decide))) fun _ c₃ h₃ => ?_
  refine revised_bind (revised_optional (revised_file (by decide) (by decide))) fun file c₄ h₄ => ?_
  refine revised_bind (revised_optional (revised_coordinates (by decide) (by decide)))
    fun uv c₅ h₅ => ?_
  refine revised_bind (revised_bumpMap (by decide)) fun bump c₆ h₆ => ?_
  refine trimmed_bind (trimmed_rename (by decide) (by decide)) fun _ c₇ h₇ => .pure ?_
  have known : Revised Subject.shape.editedNames c levels c₃ := (h₂.afterTrim h₁).andThen h₃
  exact (((known.append h₄).append h₅).append h₆).andThen h₇

/-! ## All kinds of directives -/

/-- A rule that finishes has revised its dictionary, whatever kind of directive it is for. -/
theorem revised_rule (s : Subject) (name : String) (loc : Location α) :
    Leaves (s.rule name loc) c fun u => Revised s.editedNames c u.definitions := by
  cases s with
  | pixelFilter => exact .map (revised_pixelFilter name)
  | integrator => exact revised_integrator name
  | camera => exact revised_camera name
  | texture => exact .map (revised_texture name)
  | material => exact revised_material name loc
  | light => exact .map (revised_light name loc)
  | areaLight => exact revised_areaLight name loc
  | shape => exact .map (revised_shape name)

end SceneScript.Upgrade
