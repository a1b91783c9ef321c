import Mathlib.Tactic.LinearCombination
import SceneScript.Proofs.Scalar.Real
import SceneScript.Proofs.Upgrade.LightParts

/-!
# The scale of a light

The strength of a light is spread over several parameters, and its rule collects the factors in the
one number "scale". In exact arithmetic nothing is lost and nothing is counted twice: the running
factor times the number "scale" in the dictionary is, after every part of the rule, the product of
what was collected and of the number "scale" before (`Collected`, `Folded`). At the end it is what a
reader takes for the scale (`lights_keep_their_scale`).
-/

set_option autoImplicit false

namespace SceneScript

open Dictionary

namespace Contents

section Factors

variable {α : Type} [Scalar α] {name other : String}

/-- The first component of an rgb color; one if there is none. -/
def level (name : String) (c : Contents α) : α :=
  ((RGB.ofNumbers? (c.numbersOf "rgb" name)).map (·.r)).getD 1

/-- The second number of a blackbody color; one if there is none. -/
def strength (name : String) (c : Contents α) : α :=
  match c.numbersOf "blackbody" name with
  | _ :: s :: _ => s
  | _ => 1

/-- The first component of an rgb color that was folded into the scale: all colors of its name are
gone, and not because a blackbody color had a second number. One if there is none. -/
def foldedAway (name : String) (before after : Contents α) : α :=
  if ¬ before.HasStrength name ∧ after.Colorless name then before.level name else 1

/-- What a reader takes for the scale of a light: the number that was defined, or else the number
that was left. -/
def effectiveScale (definitions : List (Param α)) (left : Contents α) : α :=
  match definitions.find? (hasType "float" "scale") with
  | some p => p.numbers.head?.getD 1
  | none => left.scale

theorem find?_temperature {c : Contents α} :
    (c.temperature name).find? (hasType "float" "scale") = none := by
  rw [temperature]
  split <;> simp [hasType, modernType]

theorem filter_temperature {c : Contents α} :
    (c.temperature name).filter (hasType "blackbody" other) =
      if name = other then c.temperature name else [] := by
  rw [temperature]
  split <;> split <;> simp_all [hasType, modernType]

end Factors

variable {name : String} {factor : ℝ} {c c' before after : Contents ℝ}

theorem Colorless.level (colorless : c.Colorless name) : c.level name = 1 := by
  rw [Contents.level, colorless.numbersOf (by decide)]
  rfl

/-- A color that is folded counts with its first component. -/
theorem folded_eq_mul_level (untinted : ¬ c.Tinted name) :
    c.folded name factor = factor * c.level name := by
  by_cases colorless : c.Colorless name
  · rw [folded, colorless.gray?, colorless.level, mul_one]
  · obtain ⟨x, gray⟩ := Option.ne_none_iff_exists'.1 fun none => untinted ⟨colorless, none⟩
    obtain ⟨color, rgb, rfl⟩ := Option.map_eq_some_iff.1 gray
    have three : RGB.ofNumbers? (c.numbersOf "rgb" name) = some color :=
      (Option.filter_eq_some_iff.1 rgb).1
    rw [folded, gray, level, three]
    rfl

namespace SameOn

theorem level (same : SameOn name c c') : c'.level name = c.level name := by
  rw [Contents.level, Contents.level, same.numbersOf]

theorem strength (same : SameOn name c c') : c'.strength name = c.strength name := by
  rw [Contents.strength, Contents.strength, same.numbersOf]

/-- Nothing was folded that is still there. -/
theorem foldedAway (same : SameOn name before after) :
    Contents.foldedAway name before after = 1 := by
  rw [Contents.foldedAway]
  split
  · rename_i gone
    exact (same.colorless_iff.1 gone.2).level
  · rfl

theorem foldedAway_congr (same : SameOn name c c') :
    Contents.foldedAway name before c' = Contents.foldedAway name before c := by
  simp only [Contents.foldedAway, same.colorless_iff]

end SameOn

theorem foldedAway_of_hasStrength (has : before.HasStrength name) :
    foldedAway name before after = 1 :=
  if_neg fun gone => gone.1 has

theorem strength_of_not_hasStrength (without : ¬ c.HasStrength name) : c.strength name = 1 := by
  rw [strength]
  split
  · rename_i two
    exact absurd (hasStrength_iff.2 ⟨_, _, _, two⟩) without
  · rfl

/-- The number "scale" and the second number of a blackbody color are in the factor, and neither is
left, or both are as they were. -/
theorem strengthened_mul_scale :
    c.strengthened name factor * (c.withoutStrength name).scale =
      factor * c.scale * c.strength name := by
  by_cases has : c.HasStrength name
  · obtain ⟨t, s, rest, two⟩ := hasStrength_iff.1 has
    rw [withoutStrength, if_pos has, scale_removeColor, scale_remove, strengthened, strength, two]
    ring
  · rw [withoutStrength_of_not has, strength_of_not_hasStrength has, mul_one,
      strengthened_of_not has]

end Contents

namespace Upgrade

open Contents Rule

variable {name other : String} {c c' before after : Contents ℝ} {factor f : ℝ}
  {ds : List (Param ℝ)}

/-! ## What the parts of the rules do -/

/-- A fold takes out all colors of a name; the first component of the one that answers is a new
factor. -/
theorem leaves_foldOrRefuse {loc : Location ℝ} {fault : UpgradeFault} :
    Leaves (foldOrRefuse name loc fault factor) c fun f c' =>
      f = factor * c.level name ∧ c' = c.removeWhere (isColor name) := by
  by_cases tinted : c.Tinted name
  · exact (refuses_foldOrRefuse tinted).leaves
  · exact (yields_foldOrRefuse tinted).leaves ⟨folded_eq_mul_level tinted, rfl⟩

/-- What becomes of a blackbody color. With a second number, the color is taken out, its temperature
is defined, and the number "scale" moves into the factor. -/
structure Extracted (name : String) (factor : ℝ) (c : Contents ℝ) (r : List (Param ℝ) × ℝ)
    (c' : Contents ℝ) : Prop where
  definitions : r.1 = c.temperature name
  total : r.2 * c'.scale = factor * c.scale * c.strength name
  taken : c.HasStrength name → c'.Colorless name
  kept : ¬ c.HasStrength name → SameOn name c c'
  others : ∀ other, other ≠ name → other ≠ "scale" → SameOn other c c'
  colorless : c.Colorless "scale" → c'.Colorless "scale"

theorem leaves_blackbodyColor : Leaves (blackbodyColor name factor) c (Extracted name factor c) := by
  refine yields_blackbodyColor.leaves ⟨rfl, strengthened_mul_scale, HasStrength.colorless,
    fun without => ?_, fun other ne scale => .withoutStrength ne.symm scale, .withoutStrength⟩
  rw [withoutStrength_of_not without]
  exact .refl

/-! ## The running factor -/

/-- What was collected before the colors of a light are looked at: the factor times the number
"scale" that is left is the product of all that was there. -/
structure Collected (before : Contents ℝ) (ds : List (Param ℝ)) (f : ℝ) (after : Contents ℝ) :
    Prop where
  definitions : ds = before.temperature "L" ++ before.temperature "I"
  total : f * after.scale =
    before.level "scale" * before.scale * (before.strength "L" * before.strength "I")
  taken : ∀ name ∈ ["L", "I"], before.HasStrength name → after.Colorless name
  kept : ∀ name ∈ ["L", "I"], ¬ before.HasStrength name → SameOn name before after
  colorless : after.Colorless "scale"

/-- The same with the colors that were folded in. -/
structure Folded (before : Contents ℝ) (f : ℝ) (after : Contents ℝ) : Prop where
  total : f * after.scale =
    before.level "scale" * before.scale * (before.strength "L" * before.strength "I") *
      (foldedAway "L" before after * foldedAway "I" before after)
  taken : ∀ name ∈ ["L", "I"], before.HasStrength name → after.Colorless name
  colorless : after.Colorless "scale"

/-- The blackbody colors, after all colors named "scale" were folded. -/
theorem leaves_blackbodyColors : Leaves (blackbodyColors (1 * c.level "scale"))
    (c.removeWhere (isColor "scale")) fun r => Collected c r.1 r.2 := by
  rw [blackbodyColors]
  refine leaves_blackbodyColor.bind fun r c₁ l => ?_
  refine leaves_blackbodyColor.bind fun r' c₂ i => .pure ?_
  -- until its turn comes, a name is left alone
  have atL : SameOn "L" c (c.removeWhere (isColor "scale")) := .removeColor (by decide)
  have atI : SameOn "I" c c₁ :=
    SameOn.trans (.removeColor (by decide)) (l.others "I" (by decide) (by decide))
  have afterL : SameOn "L" c₁ c₂ := i.others "L" (by decide) (by decide)
  refine ⟨?_, ?_, ?_, ?_, i.colorless (l.colorless colorless_removeColor)⟩
  · rw [l.definitions, i.definitions, atL.temperature, atI.temperature]
  · rw [i.total, l.total, scale_removeColor, atL.strength, atI.strength]
    ring
  · intro name mem has
    obtain rfl | rfl : name = "L" ∨ name = "I" := by simpa using mem
    · exact afterL.colorless_iff.2 (l.taken (atL.hasStrength_iff.2 has))
    · exact i.taken (atI.hasStrength_iff.2 has)
  · intro name mem without
    obtain rfl | rfl : name = "L" ∨ name = "I" := by simpa using mem
    · exact (atL.trans (l.kept fun has => without (atL.hasStrength_iff.1 has))).trans afterL
    · exact atI.trans (i.kept fun has => without (atI.hasStrength_iff.1 has))

namespace Collected

/-- Parameters that have nothing to do with the strength may be taken out. -/
theorem remove {type : String} (collected : Collected before ds f c)
    (apart : other ∉ ["L", "I", "scale"]) :
    Collected before ds f (c.removeWhere (hasType type other)) := by
  simp only [List.mem_cons, List.not_mem_nil, not_or, or_false] at apart
  refine ⟨collected.definitions, ?_, fun name mem has => (collected.taken name mem has).removeWhere,
    fun name mem without => ?_, collected.colorless.removeWhere⟩
  · rw [SameOn.scale (.remove apart.2.2), collected.total]
  · have ne : other ≠ name := by
      rintro rfl
      simp [apart] at mem
    exact (collected.kept name mem without).trans (.remove ne)

theorem foldedAway (collected : Collected before ds f c) (mem : name ∈ ["L", "I"]) :
    foldedAway name before c = 1 := by
  by_cases has : before.HasStrength name
  · exact foldedAway_of_hasStrength has
  · exact (collected.kept name mem has).foldedAway

/-- If no color is folded, there is nothing to be added. -/
theorem unfolded (collected : Collected before ds f c) : Folded before f c := by
  refine ⟨?_, collected.taken, collected.colorless⟩
  rw [collected.total, collected.foldedAway (by decide), collected.foldedAway (by decide)]
  ring

/-- What is folded away is what stood there: after a blackbody color was taken out, nothing. -/
theorem foldedAway_removeColor (collected : Collected before ds f c) (mem : name ∈ ["L", "I"]) :
    Contents.foldedAway name before (c.removeWhere (isColor name)) = c.level name := by
  by_cases has : before.HasStrength name
  · rw [foldedAway_of_hasStrength has, (collected.taken name mem has).level]
  · rw [Contents.foldedAway, if_pos ⟨has, colorless_removeColor⟩,
      (collected.kept name mem has).level]

/-- A color that is folded counts once. -/
theorem fold (collected : Collected before ds f c) (mem : name ∈ ["L", "I"]) :
    Folded before (f * c.level name) (c.removeWhere (isColor name)) := by
  refine ⟨?_, fun other mem has => (collected.taken other mem has).removeWhere,
    collected.colorless.removeWhere⟩
  have here := collected.foldedAway_removeColor mem
  have there (other : String) (ne : name ≠ other) (mem : other ∈ ["L", "I"]) :
      Contents.foldedAway other before (c.removeWhere (isColor name)) = 1 := by
    rw [(SameOn.removeColor ne).foldedAway_congr, collected.foldedAway mem]
  rw [scale_removeColor, mul_right_comm, collected.total]
  obtain rfl | rfl : name = "L" ∨ name = "I" := by simpa using mem
  · rw [here, there "I" (by decide) (by decide)]
    ring
  · rw [here, there "L" (by decide) (by decide)]
    ring

end Collected

theorem Folded.remove {type : String} (folded : Folded before f c)
    (apart : other ∉ ["L", "I", "scale"]) : Folded before f (c.removeWhere (hasType type other)) := by
  simp only [List.mem_cons, List.not_mem_nil, not_or, or_false] at apart
  refine ⟨?_, fun name mem has => (folded.taken name mem has).removeWhere,
    folded.colorless.removeWhere⟩
  rw [SameOn.scale (.remove apart.2.2), folded.total, (SameOn.remove apart.1).foldedAway_congr,
    (SameOn.remove apart.2.1).foldedAway_congr]

theorem leaves_mapColor {loc : Location ℝ} (collected : Collected before ds f c) :
    Leaves (mapColor name loc f) c (Folded before) := by
  -- a fold, and none
  have folds {name : String} {fault : UpgradeFault} (mem : name ∈ ["L", "I"]) :
      Leaves (foldOrRefuse name loc fault f) c (Folded before) := by
    refine leaves_foldOrRefuse.mono ?_
    rintro f' c' ⟨rfl, rfl⟩
    exact collected.fold mem
  have stays : Leaves (pure f : Rule ℝ ℝ) c (Folded before) := .pure collected.unfolded
  rw [mapColor]
  apply Leaves.ask
  split
  · split
    · exact folds (by decide)
    · exact stays
  · split
    · exact folds (by decide)
    · exact stays

/-! ## The scale at the end -/

/-- The scale of a light is the same after its upgrade as all factors together before, a blackbody
color is left with its temperature alone, and no color is called "scale". -/
structure ScaleKept (before : Contents ℝ) (definitions : List (Param ℝ)) (after : Contents ℝ) :
    Prop where
  scale : effectiveScale definitions after =
    before.level "scale" * before.scale * (before.strength "L" * before.strength "I") *
      (foldedAway "L" before after * foldedAway "I" before after)
  taken : ∀ name ∈ ["L", "I"], ∀ t s rest, before.numbersOf "blackbody" name = t :: s :: rest →
    after.Colorless name ∧
      definitions.filter (hasType "blackbody" name) = [.define "blackbody" name [.number t]]
  colorless : after.Colorless "scale"

/-- The last part of both rules, behind definitions of blackbody colors and of a file. -/
theorem leaves_scaleWith (folded : Folded before f c)
    (unscaled : ds.find? (hasType "float" "scale") = none)
    (temperatures : ∀ name ∈ ["L", "I"],
      ds.filter (hasType "blackbody" name) = before.temperature name) :
    Leaves (scaleWith f) c fun scale c' => ScaleKept before (ds ++ scale) c' := by
  have taken {scale : List (Param ℝ)}
      (other : ∀ name, scale.filter (hasType "blackbody" name) = []) :
      ∀ name ∈ ["L", "I"], ∀ t s rest, before.numbersOf "blackbody" name = t :: s :: rest →
        (ds ++ scale).filter (hasType "blackbody" name) =
          [.define "blackbody" name [.number t]] := by
    intro name mem t s rest two
    rw [List.filter_append, other, List.append_nil, temperatures name mem, temperature, two]
  rw [scaleWith]
  split
  · rename_i one
    obtain rfl : f = 1 := Scalar.beq_real_iff.1 one
    refine .pure ⟨?_, fun name mem t s rest two => ?_, folded.colorless⟩
    · rw [effectiveScale, List.append_nil, unscaled]
      exact (one_mul c.scale).symm.trans folded.total
    · exact ⟨folded.taken name mem (hasStrength_iff.2 ⟨t, s, rest, two⟩),
        taken (fun _ => rfl) name mem t s rest two⟩
  · apply Leaves.ask
    apply Leaves.remove_bind
    refine .pure ⟨?_, fun name mem t s rest two => ?_, folded.colorless.removeWhere⟩
    · rw [effectiveScale, List.find?_append, unscaled, Option.none_or, ← scale_eq,
        (SameOn.remove (by decide)).foldedAway_congr, (SameOn.remove (by decide)).foldedAway_congr,
        ← folded.total]
      rfl
    · have has := hasStrength_iff.2 ⟨t, s, rest, two⟩
      exact ⟨(folded.taken name mem has).removeWhere,
        taken (fun name => by simp [floatDefinition, hasType, modernType]) name mem t s rest two⟩

theorem leaves_mapFile (folded : Folded before f c) : Leaves mapFile c fun file c' =>
    Folded before f c' ∧ file.find? (hasType "float" "scale") = none ∧
      ∀ name, file.filter (hasType "blackbody" name) = [] := by
  rw [mapFile]
  apply Leaves.ask
  split
  · exact .pure ⟨folded, rfl, fun _ => rfl⟩
  · have removed : Leaves (remove "string" "mapname" : Rule ℝ Unit) c fun _ => Folded before f :=
      .remove (folded.remove (by decide))
    refine removed.bind fun _ c' folded => .pure ⟨folded, ?_, fun name => ?_⟩ <;>
      simp [stringDefinition, hasType, modernType]

namespace Collected

theorem find?_definitions (collected : Collected before ds f c) :
    ds.find? (hasType "float" "scale") = none := by
  rw [collected.definitions, List.find?_append, find?_temperature, find?_temperature, Option.none_or]

theorem filter_definitions (collected : Collected before ds f c) (mem : name ∈ ["L", "I"]) :
    ds.filter (hasType "blackbody" name) = before.temperature name := by
  rw [collected.definitions, List.filter_append, filter_temperature, filter_temperature]
  obtain rfl | rfl : name = "L" ∨ name = "I" := by simpa using mem
  · rw [if_pos rfl, if_neg (by decide), List.append_nil]
  · rw [if_neg (by decide), if_pos rfl, List.nil_append]

/-- Nothing depends on the number of samples. -/
theorem leaves_remove (collected : Collected before ds f c) :
    Leaves (Rule.remove "integer" "nsamples" : Rule ℝ Unit) c fun _ => Collected before ds f :=
  .remove (collected.remove (by decide))

end Collected

theorem leaves_light (name : String) (loc : Location ℝ) :
    Leaves (light name loc) c (ScaleKept c) := by
  rw [light]
  refine leaves_foldOrRefuse.bind ?_
  rintro _ _ ⟨rfl, rfl⟩
  refine leaves_blackbodyColors.bind fun colors c₁ collected => ?_
  refine collected.leaves_remove.bind fun _ c₂ collected => ?_
  refine (leaves_mapColor collected).bind fun f c₃ folded => ?_
  refine (leaves_mapFile folded).bind ?_
  rintro file c₄ ⟨folded, unscaled, cold⟩
  refine (leaves_scaleWith folded ?_ fun name mem => ?_).bind fun scale c₅ kept => .pure kept
  · rw [List.find?_append, collected.find?_definitions, unscaled, Option.none_or]
  · rw [List.filter_append, cold, List.append_nil, collected.filter_definitions mem]

theorem leaves_areaLight (name : String) (loc : Location ℝ) :
    Leaves (areaLight name loc) c fun u => ScaleKept c u.definitions := by
  rw [areaLight]
  refine leaves_foldOrRefuse.bind ?_
  rintro _ _ ⟨rfl, rfl⟩
  refine leaves_blackbodyColors.bind fun colors c₁ collected => ?_
  refine collected.leaves_remove.bind fun _ c₂ collected => ?_
  refine (leaves_scaleWith collected.unfolded ?_ fun name mem => ?_).bind
    fun scale c₃ kept => .pure kept
  · exact collected.find?_definitions
  · exact collected.filter_definitions mem

/-- In exact arithmetic, the rules for lights and area lights keep the scale of a light: what is read
as its scale after the upgrade is the product of the color "scale", the number "scale", the second
numbers of the blackbody colors and the colors that were folded away. -/
theorem lights_keep_their_scale (name : String) (loc : Location ℝ) (d : Dictionary ℝ) :
    (∀ definitions, ((light name loc).run d).result = .ok definitions →
      ScaleKept d.contents definitions ((light name loc).run d).state.contents) ∧
    ∀ u, ((areaLight name loc).run d).result = .ok u →
      ScaleKept d.contents u.definitions ((areaLight name loc).run d).state.contents :=
  ⟨leaves_light name loc d rfl, leaves_areaLight name loc d rfl⟩

/-- Control: the number "scale" and the second number of a blackbody color make one scale. -/
theorem lights_keep_their_scale_area :
    let lit {α : Type} [Scalar α] (x t s : α) : Dictionary α := .ofParams
      [⟨"float", "scale", .unknown, [x], [], [], false, none⟩,
        ⟨"blackbody", "L", .unknown, [t, s], [], [], false, none⟩] defaultColorSpace []
    let after := (areaLight "area" .unknown).run (lit (3 : ℝ) 6500 5)
    ∃ u, after.result = .ok u ∧ effectiveScale u.definitions after.state.contents = 3 * 5 := by
  intro lit after
  -- no number is compared before the last part of the rule, which always finishes
  have run {α : Type} [Scalar α] (x t s : α) :
      (areaLight "area" .unknown).run (lit x t s) =
        (scaleWith (1 * (x * s)) >>= fun scale => pure
          ⟨"diffuse", [.define "blackbody" "L" [.number t]] ++ scale⟩ :
            Rule α (Upgraded α)).run (.ofParams [] defaultColorSpace []) := by
    cbv
  have written (f : ℝ) (left : Dictionary ℝ) :
      ∃ ds left', (scaleWith f).run left = ⟨.ok ds, left', []⟩ := by
    rw [scaleWith]
    split
    · exact ⟨_, _, rfl⟩
    · exact ⟨_, _, rfl⟩
  obtain ⟨ds, left, last⟩ := written (1 * (3 * 5)) (.ofParams [] defaultColorSpace [])
  have finished : after.result =
      .ok ⟨"diffuse", [.define "blackbody" "L" [.number 6500]] ++ ds⟩ := by
    rw [show after = _ from run 3 6500 5, Action.run_bind_of_eq_ok last]
    rfl
  have kept := (lights_keep_their_scale "area" .unknown (lit (3 : ℝ) 6500 5)).2 _ finished
  have factors {α : Type} [Scalar α] (x t s : α) :
      (lit x t s).contents.level "scale" = 1 ∧ (lit x t s).contents.scale = x ∧
        (lit x t s).contents.strength "L" = s ∧ (lit x t s).contents.strength "I" = 1 ∧
        (lit x t s).contents.level "I" = 1 ∧ (lit x t s).contents.HasStrength "L" := by
    refine ⟨?_, ?_, ?_, ?_, ?_, ?_⟩ <;> cbv
  obtain ⟨tint, number, strong, plain, colorless, has⟩ := factors (3 : ℝ) 6500 5
  refine ⟨_, finished, kept.scale.trans ?_⟩
  rw [tint, number, strong, plain, foldedAway_of_hasStrength has, foldedAway, colorless, ite_self]
  ring

end Upgrade

end SceneScript
