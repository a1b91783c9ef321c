import SceneScript.Proofs.Upgrade.Yields

/-!
# What the rules for lights compute

The rules for lights take factors out of a dictionary and collect them. For each part of the rules
there is a lemma that says when it refuses, and else with which value it finishes and what it leaves,
in terms of the answers before. `yields_light` and `yields_areaLight` put the parts together: what is
left after the factors were collected is `Contents.stripped`, and the factor is `Contents.collected`.
-/

set_option autoImplicit false

namespace SceneScript

open Dictionary

namespace Contents

variable {α : Type} {name other : String} {c c' : Contents α}

/-- The blackbody color of a name has a second number. -/
def HasStrength (name : String) (c : Contents α) : Prop :=
  2 ≤ (c.numbersOf "blackbody" name).length

instance (name : String) (c : Contents α) : Decidable (c.HasStrength name) :=
  inferInstanceAs (Decidable (2 ≤ (c.numbersOf "blackbody" name).length))

/-- The contents after the second number of a blackbody color has become a factor, and with it the
number "scale". -/
def withoutStrength (name : String) (c : Contents α) : Contents α :=
  if c.HasStrength name then
    (c.removeWhere (hasType "float" "scale")).removeWhere (isColor name)
  else c

/-- The contents of a light after the colors named "scale", the blackbody colors with a second number
and the number of samples were taken out. -/
def stripped (c : Contents α) : Contents α :=
  (((c.removeWhere (isColor "scale")).withoutStrength "L").withoutStrength "I").removeWhere
    (hasType "integer" "nsamples")

/-- The contents without the name of an image, unless that is empty. -/
def withoutMap (c : Contents α) : Contents α :=
  if c.word "string" "mapname" = "" then c else c.removeWhere (hasType "string" "mapname")

/-- The color that the rule for a light must be able to fold into the scale, with the refusal if it
is not: beside an image that of an infinite light, and without an image that of a projection light. -/
def surrendered? (name : String) (c : Contents α) : Option (String × UpgradeFault) :=
  if c.word "string" "mapname" ≠ "" then
    if name = "infinite" then some ("L", .coloredInfiniteMap) else none
  else
    if name = "projection" then some ("I", .coloredProjectionMap) else none

theorem hasStrength_iff : c.HasStrength name ↔
    ∃ t s rest, c.numbersOf "blackbody" name = t :: s :: rest := by
  rw [HasStrength]
  rcases c.numbersOf "blackbody" name with _ | ⟨t, _ | ⟨s, rest⟩⟩ <;> simp

theorem SameOn.hasStrength_iff (same : SameOn name c c') :
    c'.HasStrength name ↔ c.HasStrength name := by
  rw [HasStrength, HasStrength, same.numbersOf]

theorem Colorless.not_hasStrength (colorless : c.Colorless name) : ¬ c.HasStrength name := by
  rw [HasStrength, colorless.numbersOf (by decide)]
  exact Nat.not_succ_le_zero 1

/-- A second number neither stands there nor in front. -/
theorem not_hasStrength_prepend {ps : List (Param α)} (without : ¬ c.HasStrength name)
    (defined : ∀ p ∈ ps, hasType "blackbody" name p = true → p.numbers.length < 2) :
    ¬ (c.prepend ps).HasStrength name := by
  rcases find?_prepend ps with same | ⟨p, mem, asked, found⟩
  · rwa [HasStrength, numbersOf_congr same]
  · rw [HasStrength, numbersOf, found, Nat.not_le]
    exact defined p mem asked

theorem withoutStrength_of_not (without : ¬ c.HasStrength name) : c.withoutStrength name = c :=
  if_neg without

theorem HasStrength.colorless (has : c.HasStrength name) :
    (c.withoutStrength name).Colorless name := by
  rw [withoutStrength, if_pos has]
  exact colorless_removeColor

theorem Colorless.withoutStrength (colorless : c.Colorless name) :
    (c.withoutStrength other).Colorless name := by
  rw [Contents.withoutStrength]
  split
  · exact colorless.removeWhere.removeWhere
  · exact colorless

theorem SameOn.withoutStrength (ne : other ≠ name) (scale : name ≠ "scale") :
    SameOn name c (c.withoutStrength other) := by
  rw [Contents.withoutStrength]
  split
  · exact SameOn.trans (.remove scale.symm) (.removeColor ne)
  · exact .refl

/-! ## What is stripped -/

theorem colorless_stripped : c.stripped.Colorless "scale" :=
  colorless_removeColor.withoutStrength.withoutStrength.removeWhere

theorem lacks_stripped : c.stripped.Lacks "integer" "nsamples" := lacks_remove

/-- Only what concerns the strength of a light is stripped. -/
theorem sameOn_stripped (apart : name ∉ ["scale", "L", "I", "nsamples"]) :
    SameOn name c c.stripped := by
  simp only [List.mem_cons, List.not_mem_nil, not_or, or_false] at apart
  obtain ⟨scale, l, i, samples⟩ := apart
  have first : SameOn name c (c.removeWhere (isColor "scale")) := .removeColor (Ne.symm scale)
  exact ((first.trans (.withoutStrength (Ne.symm l) scale)).trans
    (.withoutStrength (Ne.symm i) scale)).trans (.remove (Ne.symm samples))

/-- What is stripped of one color has nothing to do with the other. -/
theorem stripped_cases (mem : name ∈ ["L", "I"]) :
    c.HasStrength name ∧ c.stripped.Colorless name ∨
      ¬ c.HasStrength name ∧ SameOn name c c.stripped := by
  -- until its turn comes, a name is left alone
  have atL : SameOn "L" c (c.removeWhere (isColor "scale")) := .removeColor (by decide)
  have atI : SameOn "I" c ((c.removeWhere (isColor "scale")).withoutStrength "L") :=
    SameOn.trans (.removeColor (by decide)) (.withoutStrength (by decide) (by decide))
  by_cases has : c.HasStrength name
  · refine Or.inl ⟨has, ?_⟩
    obtain rfl | rfl : name = "L" ∨ name = "I" := by simpa using mem
    · exact (atL.hasStrength_iff.2 has).colorless.withoutStrength.removeWhere
    · exact (atI.hasStrength_iff.2 has).colorless.removeWhere
  · refine Or.inr ⟨has, ?_⟩
    obtain rfl | rfl : name = "L" ∨ name = "I" := by simpa using mem
    · have stays := withoutStrength_of_not (mt atL.hasStrength_iff.1 has)
      rw [stripped, stays]
      exact (atL.trans (.withoutStrength (by decide) (by decide))).trans (.remove (by decide))
    · have stays := withoutStrength_of_not (mt atI.hasStrength_iff.1 has)
      rw [stripped, stays]
      exact atI.trans (.remove (by decide))

/-- Nothing of a blackbody color with a second number is left after stripping. -/
theorem not_hasStrength_stripped (mem : name ∈ ["L", "I"]) : ¬ c.stripped.HasStrength name := by
  rcases stripped_cases mem with ⟨-, colorless⟩ | ⟨without, same⟩
  · exact colorless.not_hasStrength
  · exact mt same.hasStrength_iff.1 without

theorem word_stripped : c.stripped.word "string" "mapname" = c.word "string" "mapname" :=
  (sameOn_stripped (by decide)).word "string"

theorem surrendered?_stripped : c.stripped.surrendered? name = c.surrendered? name := by
  rw [surrendered?, surrendered?, word_stripped]

theorem surrendered?_eq_some_iff {color : String} {fault : UpgradeFault} :
    c.surrendered? name = some (color, fault) ↔
      c.word "string" "mapname" ≠ "" ∧ name = "infinite" ∧
          (color, fault) = ("L", .coloredInfiniteMap) ∨
        c.word "string" "mapname" = "" ∧ name = "projection" ∧
          (color, fault) = ("I", .coloredProjectionMap) := by
  rw [surrendered?, eq_comm]
  split
  · rename_i mapped
    split <;> simp_all
  · rename_i unmapped
    split <;> simp_all

theorem mem_of_surrendered? {color : String} {fault : UpgradeFault}
    (surrendered : c.surrendered? name = some (color, fault)) : color ∈ ["L", "I"] := by
  rcases surrendered?_eq_some_iff.1 surrendered with ⟨-, -, same⟩ | ⟨-, -, same⟩
  all_goals
    cases same
    decide

theorem word_withoutMap : c.withoutMap.word "string" "mapname" = "" := by
  rw [withoutMap]
  split
  · assumption
  · exact lacks_remove.word

theorem sameOn_withoutMap (ne : "mapname" ≠ name) : SameOn name c c.withoutMap := by
  rw [withoutMap]
  split
  · exact .refl
  · exact .remove ne

theorem Colorless.withoutMap (colorless : c.Colorless name) : c.withoutMap.Colorless name := by
  rw [Contents.withoutMap]
  split
  · exact colorless
  · exact colorless.removeWhere

section Factors

variable [Scalar α]

/-- The number "scale"; one if it is not given. -/
def scale (c : Contents α) : α :=
  (c.numbersOf "float" "scale").head?.getD 1

/-- The component of the rgb color of a name, if the color is gray. -/
def gray? (name : String) (c : Contents α) : Option α :=
  ((c.rgb? name).filter Upgrade.isGray).map (·.r)

/-- A name has a color, and it is no gray rgb color. -/
def Tinted (name : String) (c : Contents α) : Prop :=
  ¬ c.Colorless name ∧ c.gray? name = none

instance (name : String) (c : Contents α) : Decidable (c.Tinted name) :=
  inferInstanceAs (Decidable (_ ∧ _))

/-- The factor with the component of a gray color. -/
def folded (name : String) (factor : α) (c : Contents α) : α :=
  match c.gray? name with
  | some x => factor * x
  | none => factor

/-- The factor with the second number of a blackbody color and the number "scale" beside it. -/
def strengthened (name : String) (factor : α) (c : Contents α) : α :=
  match c.numbersOf "blackbody" name with
  | _ :: strength :: _ => factor * (c.scale * strength)
  | _ => factor

/-- The factor of what is stripped. -/
def collected (c : Contents α) : α :=
  let unscaled := c.removeWhere (isColor "scale")
  (unscaled.withoutStrength "L").strengthened "I" (unscaled.strengthened "L" (c.folded "scale" 1))

/-- The definition of the temperature of a blackbody color that has a second number. -/
def temperature (name : String) (c : Contents α) : List (Param α) :=
  match c.numbersOf "blackbody" name with
  | t :: _ :: _ => [.define "blackbody" name [.number t]]
  | _ => []

/-- The definition of an image, unless its name is empty. -/
def imageDefinition (c : Contents α) : List (Param α) :=
  if c.word "string" "mapname" = "" then []
  else [Rule.stringDefinition "imagefile" (c.word "string" "mapname")]

/-- The definition of the number "scale" with a factor, unless the factor is one. -/
def scaleDefinition (factor : α) (c : Contents α) : List (Param α) :=
  if factor == 1 then [] else [Rule.floatDefinition "scale" (factor * c.scale)]

/-- The contents without the number "scale", if that is defined with a factor. -/
def withoutScale (factor : α) (c : Contents α) : Contents α :=
  if factor == 1 then c else c.removeWhere (hasType "float" "scale")

theorem scale_eq :
    c.scale = ((c.find? (hasType "float" "scale")).bind (·.numbers.head?)).getD 1 := by
  rw [scale, bind_numbers_head?]

theorem scale_removeColor : (c.removeWhere (isColor name)).scale = c.scale := by
  have same : (c.removeWhere (isColor name)).find? (hasType "float" "scale") =
      c.find? (hasType "float" "scale") := by
    apply find?_removeWhere_of_disjoint
    intro p has
    simp only [hasType, Bool.and_eq_true, beq_iff_eq] at has
    simp [isColor, isColorType, has.2, colorTypes]
  rw [scale, scale, numbersOf_congr same]

theorem scale_remove : (c.removeWhere (hasType "float" "scale")).scale = 1 := by
  rw [scale, numbersOf_remove]
  rfl

theorem temperature_of_not_hasStrength (without : ¬ c.HasStrength name) :
    c.temperature name = [] := by
  rw [temperature]
  split
  · rename_i two
    exact absurd (hasStrength_iff.2 ⟨_, _, _, two⟩) without
  · rfl

/-- A blackbody color with a second number is defined again. -/
theorem HasStrength.mem_temperature (has : c.HasStrength name) :
    ∃ t : α, Param.define "blackbody" name [.number t] ∈ c.temperature name := by
  obtain ⟨t, s, rest, two⟩ := hasStrength_iff.1 has
  refine ⟨t, ?_⟩
  rw [temperature, two]
  exact List.mem_singleton_self _

/-- The temperature of a blackbody color is its only number. -/
theorem length_numbers_of_mem_temperature {p : Param α} (mem : p ∈ c.temperature name) :
    p.numbers.length < 2 := by
  rw [temperature] at mem
  split at mem
  · rw [List.mem_singleton.1 mem]
    simp [Param.define, Param.ofValues, Param.push]
  · exact absurd mem List.not_mem_nil

theorem keyed_temperature : Upgrade.Keyed [("blackbody", name)] (c.temperature name) := by
  rw [temperature]
  split
  · exact .define
  · exact .nil

theorem keyed_imageDefinition : Upgrade.Keyed [("string", "imagefile")] c.imageDefinition := by
  rw [imageDefinition]
  split
  · exact .nil
  · exact .define

theorem keyed_scaleDefinition {factor : α} :
    Upgrade.Keyed [("float", "scale")] (c.scaleDefinition factor) := by
  rw [scaleDefinition]
  split
  · exact .nil
  · exact .define

theorem strengthened_of_not {factor : α} (without : ¬ c.HasStrength name) :
    c.strengthened name factor = factor := by
  rw [strengthened]
  split
  · rename_i two
    exact absurd (hasStrength_iff.2 ⟨_, _, _, two⟩) without
  · rfl

theorem Colorless.gray? (colorless : c.Colorless name) : c.gray? name = none := by
  rw [Contents.gray?, colorless.rgb?]
  rfl

namespace SameOn

theorem scale (same : SameOn "scale" c c') : c'.scale = c.scale := by
  rw [Contents.scale, Contents.scale, same.numbersOf]

theorem temperature (same : SameOn name c c') : c'.temperature name = c.temperature name := by
  rw [Contents.temperature, Contents.temperature, same.numbersOf]

theorem gray? (same : SameOn name c c') : c'.gray? name = c.gray? name := by
  rw [Contents.gray?, Contents.gray?, same.rgb?]

theorem imageDefinition (same : SameOn "mapname" c c') : c'.imageDefinition = c.imageDefinition := by
  rw [Contents.imageDefinition, Contents.imageDefinition, same.word]

theorem scaleDefinition {factor : α} (same : SameOn "scale" c c') :
    c'.scaleDefinition factor = c.scaleDefinition factor := by
  rw [Contents.scaleDefinition, Contents.scaleDefinition, same.scale]

theorem tinted_iff (same : SameOn name c c') : c'.Tinted name ↔ c.Tinted name := by
  rw [Tinted, Tinted, same.colorless_iff, same.gray?]

end SameOn

/-- A color is tinted after stripping if it was before and had no second number. -/
theorem tinted_stripped_iff (mem : name ∈ ["L", "I"]) :
    c.stripped.Tinted name ↔ ¬ c.HasStrength name ∧ c.Tinted name := by
  rcases stripped_cases mem with ⟨has, colorless⟩ | ⟨without, same⟩
  · exact ⟨fun tinted => absurd colorless tinted.1, fun h => absurd has h.1⟩
  · exact same.tinted_iff.trans (and_iff_right without).symm

theorem sameOn_withoutScale {factor : α} (ne : "scale" ≠ name) :
    SameOn name c (c.withoutScale factor) := by
  rw [withoutScale]
  split
  · exact .refl
  · exact .remove ne

theorem Colorless.withoutScale {factor : α} (colorless : c.Colorless name) :
    (c.withoutScale factor).Colorless name := by
  rw [Contents.withoutScale]
  split
  · exact colorless
  · exact colorless.removeWhere

end Factors

end Contents

namespace Upgrade

open Contents Rule

variable {α : Type} [Scalar α] {name : String} {loc : Location α} {fault : UpgradeFault}
  {factor f : α} {c c' : Contents α}

/-! ## Folded colors -/

/-- A color that is not tinted is taken out, and gives a factor if there is one. -/
theorem yields_foldColor (untinted : ¬ c.Tinted name) :
    (foldColor name factor).Yields c (some (c.folded name factor))
      (c.removeWhere (isColor name)) := by
  rw [foldColor]
  refine .bind (.hasColor rfl) ?_
  by_cases colorless : c.Colorless name
  · -- no color is as good as white
    rw [colorless_iff.1 colorless, removeWhere_of_none colorless, folded, colorless.gray?]
    exact .pure
  · obtain ⟨x, gray⟩ := Option.ne_none_iff_exists'.1 fun none => untinted ⟨colorless, none⟩
    obtain ⟨color, rgb, rfl⟩ := Option.map_eq_some_iff.1 gray
    obtain ⟨rgb, gray'⟩ := Option.filter_eq_some_iff.1 rgb
    have bound : (c.find? (isColor name)).isSome = true :=
      Option.isSome_iff_ne_none.2 (mt colorless_iff.2 colorless)
    rw [bound, folded, gray]
    refine .bind (.ask (bind_ofNumbers?.trans rgb)) ?_
    dsimp only
    rw [if_pos gray']
    exact .bind .removeColor .pure

theorem yields_foldColor_of_tinted (tinted : c.Tinted name) :
    (foldColor name factor).Yields c none c := by
  obtain ⟨colored, noGray⟩ := tinted
  have bound : (c.find? (isColor name)).isSome = true :=
    Option.isSome_iff_ne_none.2 (mt colorless_iff.2 colored)
  rw [foldColor]
  refine .bind (.hasColor bound) (.bind (.ask bind_ofNumbers?) ?_)
  cases rgb : c.rgb? name with
  | none => exact .pure
  | some color =>
    have notGray : ¬ isGray color = true := by
      intro gray
      rw [gray?, rgb, Option.filter_some_pos gray] at noGray
      exact nomatch noGray
    dsimp only
    rw [if_neg notGray]
    exact .pure

theorem yields_foldOrRefuse (untinted : ¬ c.Tinted name) :
    (foldOrRefuse name loc fault factor).Yields c (c.folded name factor)
      (c.removeWhere (isColor name)) :=
  .bind (yields_foldColor untinted) .pure

theorem refuses_foldOrRefuse (tinted : c.Tinted name) :
    (foldOrRefuse name loc fault factor).Refuses c fault := by
  refine .after (yields_foldColor_of_tinted tinted) ?_
  intro d hd
  exact ⟨_, rfl⟩

/-! ## Blackbody colors, images and the scale -/

theorem yields_blackbodyColor :
    (blackbodyColor name factor).Yields c (c.temperature name, c.strengthened name factor)
      (c.withoutStrength name) := by
  rw [blackbodyColor]
  refine .bind (.ask (b := c.numbersOf "blackbody" name) rfl) ?_
  split
  · rename_i t s rest two
    rw [temperature, strengthened, withoutStrength, two,
      if_pos (hasStrength_iff.2 ⟨t, s, rest, two⟩)]
    exact .bind (.ask scale_eq.symm) (.bind .remove (.bind .removeColor .pure))
  · rename_i few
    have without : ¬ c.HasStrength name := by
      intro has
      obtain ⟨t, s, rest, two⟩ := hasStrength_iff.1 has
      exact few t s rest two
    rw [temperature_of_not_hasStrength without, strengthened_of_not without,
      withoutStrength_of_not without]
    exact .pure

/-- The blackbody colors, after all colors named "scale" were folded. -/
theorem yields_blackbodyColors :
    (blackbodyColors (c.folded "scale" 1)).Yields (c.removeWhere (isColor "scale"))
      (c.temperature "L" ++ c.temperature "I", c.collected)
      (((c.removeWhere (isColor "scale")).withoutStrength "L").withoutStrength "I") := by
  -- until its turn comes, a name is left alone
  have atL : SameOn "L" c (c.removeWhere (isColor "scale")) := .removeColor (by decide)
  have atI : SameOn "I" c ((c.removeWhere (isColor "scale")).withoutStrength "L") :=
    SameOn.trans (.removeColor (by decide)) (.withoutStrength (by decide) (by decide))
  rw [blackbodyColors, ← atL.temperature, ← atI.temperature]
  exact .bind yields_blackbodyColor (.bind yields_blackbodyColor .pure)

theorem yields_mapFile :
    (mapFile : Rule α (List (Param α))).Yields c c.imageDefinition c.withoutMap := by
  rw [mapFile, imageDefinition, withoutMap]
  refine .bind (.ask (b := c.word "string" "mapname") rfl) ?_
  split
  · exact .pure
  · exact .bind .remove .pure

theorem yields_scaleWith :
    (scaleWith factor).Yields c (c.scaleDefinition factor) (c.withoutScale factor) := by
  rw [scaleWith, scaleDefinition, withoutScale]
  split
  · exact .pure
  · exact .bind (.ask scale_eq.symm) (.bind .remove .pure)

/-! ## The color beside an image -/

/-- No color has to be surrendered, and none is. -/
theorem yields_mapColor (keeps : c.surrendered? name = none) :
    (mapColor name loc factor).Yields c factor c := by
  rw [surrendered?] at keeps
  rw [mapColor]
  refine .bind (.ask (b := c.word "string" "mapname") rfl) ?_
  split at keeps
  · rename_i mapped
    rw [if_pos mapped, if_neg fun infinite => by simp [infinite] at keeps]
    exact .pure
  · rename_i unmapped
    rw [if_neg unmapped, if_neg fun projection => by simp [projection] at keeps]
    exact .pure

/-- The color that has to be surrendered is folded. -/
theorem yields_mapColor_of_untinted {color : String}
    (surrendered : c.surrendered? name = some (color, fault)) (untinted : ¬ c.Tinted color) :
    (mapColor name loc factor).Yields c (c.folded color factor) (c.removeWhere (isColor color)) := by
  rw [mapColor]
  refine .bind (.ask (b := c.word "string" "mapname") rfl) ?_
  rcases surrendered?_eq_some_iff.1 surrendered with ⟨mapped, rfl, same⟩ | ⟨unmapped, rfl, same⟩
  · cases same
    rw [if_pos mapped, if_pos rfl]
    exact yields_foldOrRefuse untinted
  · cases same
    rw [if_neg (not_not_intro unmapped), if_pos rfl]
    exact yields_foldOrRefuse untinted

/-- The color that has to be surrendered cannot be folded. -/
theorem refuses_mapColor {color : String}
    (surrendered : c.surrendered? name = some (color, fault)) (tinted : c.Tinted color) :
    (mapColor name loc factor).Refuses c fault := by
  rw [mapColor]
  refine .after (.ask (b := c.word "string" "mapname") rfl) ?_
  rcases surrendered?_eq_some_iff.1 surrendered with ⟨mapped, rfl, same⟩ | ⟨unmapped, rfl, same⟩
  · cases same
    rw [if_pos mapped, if_pos rfl]
    exact refuses_foldOrRefuse tinted
  · cases same
    rw [if_neg (not_not_intro unmapped), if_pos rfl]
    exact refuses_foldOrRefuse tinted

/-! ## Whole lights -/

/-- A light finishes if its color beside the image does. -/
theorem yields_light (untinted : ¬ c.Tinted "scale")
    (surrenders : (mapColor name loc c.collected).Yields c.stripped f c') :
    (light name loc).Yields c
      (c.temperature "L" ++ c.temperature "I" ++ c'.imageDefinition ++
        c'.withoutMap.scaleDefinition f) (c'.withoutMap.withoutScale f) := by
  rw [light]
  -- the contents are stripped once the number of samples is gone
  refine .bind (yields_foldOrRefuse untinted) (.bind yields_blackbodyColors (.bind .remove ?_))
  exact .bind surrenders (.bind yields_mapFile (.bind yields_scaleWith .pure))

theorem yields_areaLight (untinted : ¬ c.Tinted "scale") :
    (areaLight name loc).Yields c
      ⟨if name = "area" then "diffuse" else name,
        c.temperature "L" ++ c.temperature "I" ++ c.stripped.scaleDefinition c.collected⟩
      (c.stripped.withoutScale c.collected) := by
  rw [areaLight]
  refine .bind (yields_foldOrRefuse untinted) (.bind yields_blackbodyColors (.bind .remove ?_))
  exact .bind yields_scaleWith .pure

theorem refuses_light_of_scale (tinted : c.Tinted "scale") :
    (light name loc).Refuses c .coloredScale :=
  .bind (refuses_foldOrRefuse tinted)

theorem refuses_areaLight (tinted : c.Tinted "scale") :
    (areaLight name loc).Refuses c .coloredScale :=
  .bind (refuses_foldOrRefuse tinted)

/-- A light is refused for the color that it has to surrender, if that has no second number. -/
theorem refuses_light {color : String} (untinted : ¬ c.Tinted "scale")
    (surrendered : c.surrendered? name = some (color, fault)) (without : ¬ c.HasStrength color)
    (tinted : c.Tinted color) : (light name loc).Refuses c fault := by
  -- with a second number the color would be stripped before it is asked for
  have tinted' : c.stripped.Tinted color :=
    (tinted_stripped_iff (mem_of_surrendered? surrendered)).2 ⟨without, tinted⟩
  refine .after (yields_foldOrRefuse untinted) (.after yields_blackbodyColors (.after .remove ?_))
  exact .bind (refuses_mapColor (surrendered?_stripped.trans surrendered) tinted')

end Upgrade

end SceneScript
