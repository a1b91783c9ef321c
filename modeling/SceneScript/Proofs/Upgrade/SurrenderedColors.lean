import Mathlib.Data.List.Permutation
import SceneScript.Proofs.Upgrade.LightParts
import SceneScript.Scalar.Double
import SceneScript.Writer.Basic

/-!
# Which lights are refused for their color

A light must give up its color for the number "scale" in two cases: an infinite light that has an
image, and a projection light that has none (`Contents.surrendered?`). It is refused if the color is
no gray rgb color, except that a blackbody color with a second number was taken out before, so that
no color is found, and its temperature is defined again.

The wording of the second refusal speaks of a projection light with an image, but with an image the
rule does not look at the color.
-/

set_option autoImplicit false

namespace SceneScript

open Dictionary

namespace Contents

variable {α : Type}

/-- What is left of a light once its color is surrendered. -/
def colorSurrendered (name : String) (c : Contents α) : Contents α :=
  match c.surrendered? name with
  | some (color, _) => c.stripped.removeWhere (isColor color)
  | none => c.stripped

variable {name color : String} {c : Contents α}

/-- Surrendering a color leaves other names alone. -/
theorem sameOn_colorSurrendered (other : ∀ fault, c.surrendered? name ≠ some (color, fault)) :
    SameOn color c.stripped (c.colorSurrendered name) := by
  rw [colorSurrendered]
  split
  · rename_i given fault surrendered
    refine .removeColor ?_
    rintro rfl
    exact other fault surrendered
  · exact .refl

theorem sameOn_colorSurrendered_of_not_mem (apart : color ∉ ["L", "I"]) :
    SameOn color c.stripped (c.colorSurrendered name) :=
  sameOn_colorSurrendered fun _ surrendered => apart (mem_of_surrendered? surrendered)

variable [Scalar α]

/-- Why a light with these contents is refused, if it is. -/
def lightFault? (name : String) (c : Contents α) : Option UpgradeFault :=
  if c.Tinted "scale" then some .coloredScale
  else
    (c.surrendered? name).bind fun (color, fault) =>
      if ¬ c.HasStrength color ∧ c.Tinted color then some fault else none

/-- The factor of a light, with the color that is surrendered. -/
def lightFactor (name : String) (c : Contents α) : α :=
  match c.surrendered? name with
  | some (color, _) => c.stripped.folded color c.collected
  | none => c.collected

/-- The definitions of a light that is accepted. -/
def lightDefinitions (name : String) (c : Contents α) : List (Param α) :=
  c.temperature "L" ++ c.temperature "I" ++ c.imageDefinition ++
    c.stripped.scaleDefinition (c.lightFactor name)

/-- What is left of a light that is accepted. -/
def lightLeft (name : String) (c : Contents α) : Contents α :=
  (c.colorSurrendered name).withoutMap.withoutScale (c.lightFactor name)

end Contents

namespace Upgrade

open Contents Rule

variable {α : Type} [Scalar α] {name color : String} {loc : Location α} {fault : UpgradeFault}
  {c : Contents α}

/-! ## Refusals -/

theorem lightFault?_of_tinted (tinted : c.Tinted "scale") :
    c.lightFault? name = some .coloredScale :=
  if_pos tinted

theorem untinted_of_lightFault? (predicted : c.lightFault? name = none) : ¬ c.Tinted "scale" := by
  intro tinted
  rw [lightFault?_of_tinted tinted] at predicted
  exact nomatch predicted

theorem lightFault?_of_surrendered (untinted : ¬ c.Tinted "scale")
    (surrendered : c.surrendered? name = some (color, fault)) :
    c.lightFault? name = if c.stripped.Tinted color then some fault else none := by
  rw [lightFault?, if_neg untinted, surrendered, Option.bind_some]
  simp only [tinted_stripped_iff (mem_of_surrendered? surrendered)]

/-- Every refusal that is predicted takes place. -/
theorem refuses_light_of_fault (predicted : c.lightFault? name = some fault) :
    (light name loc).Refuses c fault := by
  by_cases tinted : c.Tinted "scale"
  · obtain rfl : UpgradeFault.coloredScale = fault :=
      Option.some.inj ((lightFault?_of_tinted tinted).symm.trans predicted)
    exact refuses_light_of_scale tinted
  · cases surrendered : c.surrendered? name with
    | none =>
      rw [lightFault?, if_neg tinted, surrendered] at predicted
      exact nomatch predicted
    | some given =>
      obtain ⟨color, named⟩ := given
      rw [lightFault?_of_surrendered tinted surrendered] at predicted
      split at predicted
      · rename_i colored
        obtain rfl : named = fault := Option.some.inj predicted
        obtain ⟨without, colored⟩ :=
          (tinted_stripped_iff (mem_of_surrendered? surrendered)).1 colored
        exact refuses_light tinted surrendered without colored
      · exact nomatch predicted

/-! ## Lights that are accepted -/

/-- What is done to the color of a light with an image, or without one. -/
theorem yields_mapColor_of_no_fault (predicted : c.lightFault? name = none) :
    (mapColor name loc c.collected).Yields c.stripped (c.lightFactor name)
      (c.colorSurrendered name) := by
  rw [lightFactor, colorSurrendered]
  cases surrendered : c.surrendered? name with
  | none => exact yields_mapColor (surrendered?_stripped.trans surrendered)
  | some given =>
    obtain ⟨color, fault⟩ := given
    refine yields_mapColor_of_untinted (surrendered?_stripped.trans surrendered) fun tinted => ?_
    have untinted := untinted_of_lightFault? predicted
    rw [lightFault?_of_surrendered untinted surrendered, if_pos tinted] at predicted
    exact nomatch predicted

/-- Without a predicted refusal, a light finishes. -/
theorem yields_light_of_no_fault (predicted : c.lightFault? name = none) :
    (light name loc).Yields c (c.lightDefinitions name) (c.lightLeft name) := by
  have map : SameOn "mapname" c (c.colorSurrendered name) :=
    (sameOn_stripped (by decide)).trans (sameOn_colorSurrendered_of_not_mem (by decide))
  have scale : SameOn "scale" c.stripped (c.colorSurrendered name).withoutMap :=
    (sameOn_colorSurrendered_of_not_mem (by decide)).trans (sameOn_withoutMap (by decide))
  rw [lightDefinitions, ← map.imageDefinition, ← scale.scaleDefinition]
  exact yields_light (untinted_of_lightFault? predicted) (yields_mapColor_of_no_fault predicted)

/-- A light that finishes was not to be refused. -/
theorem leaves_light_of_no_fault {post : List (Param α) → Contents α → Prop}
    (holds : c.lightFault? name = none → post (c.lightDefinitions name) (c.lightLeft name)) :
    (light name loc).Leaves c post := by
  cases predicted : c.lightFault? name with
  | some fault => exact (refuses_light_of_fault predicted).leaves
  | none => exact (yields_light_of_no_fault predicted).leaves (holds predicted)

/-- A color that is not asked for stays, unless it was a blackbody color with a second number. -/
theorem sameOn_lightLeft (mem : color ∈ ["L", "I"]) (without : ¬ c.HasStrength color)
    (other : ∀ fault, c.surrendered? name ≠ some (color, fault)) :
    SameOn color c (c.lightLeft name) := by
  have apart : "mapname" ≠ color ∧ "scale" ≠ color := by
    obtain rfl | rfl : color = "L" ∨ color = "I" := by simpa using mem
    · decide
    · decide
  have same : SameOn color c c.stripped :=
    ((stripped_cases mem).resolve_left fun has => without has.1).2
  exact ((same.trans (sameOn_colorSurrendered other)).trans (sameOn_withoutMap apart.1)).trans
    (sameOn_withoutScale apart.2)

theorem colorless_lightLeft (surrendered : c.surrendered? name = some (color, fault)) :
    (c.lightLeft name).Colorless color := by
  rw [lightLeft, colorSurrendered, surrendered]
  exact colorless_removeColor.withoutMap.withoutScale

theorem keyed_lightDefinitions :
    Keyed [("blackbody", "L"), ("blackbody", "I"), ("string", "imagefile"), ("float", "scale")]
      (c.lightDefinitions name) :=
  ((keyed_temperature.append keyed_temperature).append keyed_imageDefinition).append
    keyed_scaleDefinition

/-- The definitions of a light show a color only where a blackbody color had a second number. -/
theorem colorless_lightDefinitions_iff {left : Contents α} (mem : color ∈ ["L", "I"]) :
    (left.prepend (c.lightDefinitions name)).Colorless color ↔
      ¬ c.HasStrength color ∧ left.Colorless color := by
  by_cases has : c.HasStrength color
  · obtain ⟨t, defined⟩ := has.mem_temperature
    have listed : Param.define "blackbody" color [.number t] ∈ c.lightDefinitions name := by
      rw [lightDefinitions]
      obtain rfl | rfl : color = "L" ∨ color = "I" := by simpa using mem
      · simp [defined]
      · simp [defined]
    have colored : isColor color (.define "blackbody" color [.number t]) = true := by
      simp [isColor, isColorType, modernType, colorTypes]
    refine iff_of_false (fun colorless => ?_) fun h => h.1 has
    exact absurd ((colorless_prepend_iff.1 colorless).1 _ listed) (by simp [colored])
  · rw [and_iff_right has, lightDefinitions]
    -- the other blackbody color has another name, and the rest is not colored
    have keyed (other : String) :
        Keyed [("blackbody", other), ("string", "imagefile"), ("float", "scale")]
          (c.temperature other ++ c.imageDefinition ++
            c.stripped.scaleDefinition (c.lightFactor name)) :=
      (keyed_temperature.append keyed_imageDefinition).append keyed_scaleDefinition
    have none := temperature_of_not_hasStrength has
    obtain rfl | rfl : color = "L" ∨ color = "I" := by simpa using mem
    · rw [none, List.nil_append]
      exact (keyed "I").colorless_prepend (by decide)
    · rw [none, List.append_nil]
      exact (keyed "L").colorless_prepend (by decide)

/-- What has become of the color that a light had to surrender. It is gone from what is left, and
counts in the number "scale"; it is defined again if it was a blackbody color with a second number. -/
structure Surrendered (color : String) (before : Contents α) (definitions : List (Param α))
    (after : Contents α) : Prop where
  gone : after.Colorless color
  counts : definitions =
    before.temperature "L" ++ before.temperature "I" ++ before.imageDefinition ++
      before.stripped.scaleDefinition (before.stripped.folded color before.collected)
  defined : (after.prepend definitions).Colorless color ↔ ¬ before.HasStrength color

theorem surrendered_light (surrendered : c.surrendered? name = some (color, fault)) :
    Surrendered color c (c.lightDefinitions name) (c.lightLeft name) := by
  have gone := colorless_lightLeft surrendered
  refine ⟨gone, ?_, ?_⟩
  · rw [lightDefinitions, lightFactor, surrendered]
  · rw [colorless_lightDefinitions_iff (mem_of_surrendered? surrendered)]
    exact and_iff_left gone

/-- A light is refused exactly if a refusal is predicted from its parameters, and for the predicted
reason. If it is accepted, the color that it had to surrender is gone and counts in the number "scale";
only a blackbody color with a second number is defined again. Any other color stays. -/
theorem lights_surrender_their_color (name : String) (loc : Location α) (d : Dictionary α) :
    let c := d.contents
    let after := (light name loc).run d
    (∀ fault, (∃ place, after.result = .error ⟨place, fault⟩) ↔ c.lightFault? name = some fault) ∧
    ∀ definitions, after.result = .ok definitions →
      (∀ color fault, c.surrendered? name = some (color, fault) →
        Surrendered color c definitions after.state.contents) ∧
      ∀ color ∈ ["L", "I"], ¬ c.HasStrength color →
        (∀ fault, c.surrendered? name ≠ some (color, fault)) →
        SameOn color c after.state.contents := by
  intro c after
  cases predicted : c.lightFault? name with
  | some fault =>
    obtain ⟨place, refused⟩ : ∃ place, after.result = .error ⟨place, fault⟩ :=
      refuses_light_of_fault predicted d rfl
    refine ⟨fun other => ?_, fun definitions finished => nomatch refused.symm.trans finished⟩
    rw [refused]
    simp
  | none =>
    obtain ⟨finished, left⟩ : after.result = .ok _ ∧ after.state.contents = _ :=
      yields_light_of_no_fault predicted d rfl
    refine ⟨fun fault => ?_, fun definitions finished' => ?_⟩
    · simp [finished]
    · obtain rfl := Except.ok.inj (finished.symm.trans finished')
      rw [left]
      exact ⟨fun color fault => surrendered_light, fun color => sameOn_lightLeft⟩

/-- Control: an infinite light with an image gives its gray color up for a number. -/
theorem lights_surrender_their_color_sky :
    let sky {α : Type} [Scalar α] (x : α) : Dictionary α := Writer.dictionary
      [⟨"string", "mapname", .unknown, [], ["sky.exr"], [], false, none⟩,
        ⟨"rgb", "L", .unknown, [x, x, x], [], [], false, none⟩]
    let after := (light "infinite" .unknown).run (sky (3 : Float))
    after.result = .ok [stringDefinition "imagefile" "sky.exr", floatDefinition "scale" (1 * 3 * 1)] ∧
      after.state.contents.Colorless "L" := by
  intro sky after
  have run {α : Type} [Scalar α] (x : α) (same : (x == x) = true) (scaled : (1 * x == 1) = false) :
      ((light "infinite" .unknown).run (sky x)).result =
        .ok [stringDefinition "imagefile" "sky.exr", floatDefinition "scale" (1 * x * 1)] := by
    let c := (sky x).contents
    have gray : c.stripped.gray? "L" = some x := by
      have rgb : c.stripped.rgb? "L" = some ⟨x, x, x⟩ := by cbv
      rw [gray?, rgb, Option.filter_some_pos (by simp [isGray, same])]
      rfl
    have untinted : ¬ c.Tinted "scale" := fun tinted => tinted.1 (colorless_iff.2 (by cbv))
    have light : ¬ c.stripped.Tinted "L" := fun tinted => absurd tinted.2 (by simp [gray])
    have folds : (mapColor "infinite" .unknown c.collected).Yields c.stripped _ _ :=
      yields_mapColor_of_untinted
        (show c.stripped.surrendered? "infinite" = some ("L", .coloredInfiniteMap) by cbv) light
    obtain ⟨finished, -⟩ := yields_light untinted folds _ rfl
    have collected : c.collected = 1 := by cbv
    refine finished.trans ?_
    rw [folded, gray, collected, scaleDefinition, scaled]
    cbv
  have finished : after.result = _ := run 3 (by decide +kernel) (by decide +kernel)
  have surrenders := (lights_surrender_their_color "infinite" .unknown (sky 3)).2 _ finished
  exact ⟨finished, (surrenders.1 "L" .coloredInfiniteMap (by cbv)).gone⟩

/-- A projection light with an image keeps its color, and an infinite light with an image keeps the
temperature of a blackbody color. Neither color is gray, and neither light is refused. -/
theorem colored_maps_are_accepted :
    let colored {α : Type} [Scalar α] (type name : String) (numbers : List α) : Dictionary α :=
      Writer.dictionary [⟨"string", "mapname", .unknown, [], ["m.exr"], [], false, none⟩,
        ⟨type, name, .unknown, numbers, [], [], false, none⟩]
    let orange : List Float := [1, 0.5, 0.5]
    let projection := (light "projection" .unknown).run (colored "rgb" "I" orange)
    let infinite := (light "infinite" .unknown).run (colored "blackbody" "L" [(5500 : Float), 3])
    (projection.result = .ok [stringDefinition "imagefile" "m.exr"] ∧
      projection.state.contents.numbersOf "rgb" "I" = orange) ∧
    infinite.result = .ok [.define "blackbody" "L" [.number 5500],
      stringDefinition "imagefile" "m.exr", floatDefinition "scale" (1 * (1 * 3) * 1)] := by
  intro colored orange projection infinite
  -- no number is compared before the last part of the rule
  have toScale {α : Type} [Scalar α] (r g b : α) :
      (light "projection" .unknown).run (colored "rgb" "I" [r, g, b]) =
        (scaleWith 1 >>= fun scale => pure ([stringDefinition "imagefile" "m.exr"] ++ scale)).run
          (Writer.dictionary [⟨"rgb", "I", .unknown, [r, g, b], [], [], false, none⟩]) := by
    cbv
  have toScale' {α : Type} [Scalar α] (t s : α) :
      (light "infinite" .unknown).run (colored "blackbody" "L" [t, s]) =
        (scaleWith (1 * (1 * s)) >>= fun scale => pure
          ([.define "blackbody" "L" [.number t], stringDefinition "imagefile" "m.exr"] ++ scale)).run
            (Writer.dictionary []) := by
    cbv
  have one : ((1 : Float) == 1) = true := by decide +kernel
  have strong : ((1 * (1 * 3) : Float) == 1) = false := by decide +kernel
  rw [show projection = _ from toScale 1 0.5 0.5, show infinite = _ from toScale' 5500 3, scaleWith,
    scaleWith, one, strong]
  exact ⟨⟨rfl, rfl⟩, rfl⟩

end Upgrade

end SceneScript
