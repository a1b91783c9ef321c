import Mathlib.Data.List.Permutation
import SceneScript.Proofs.Upgrade.UpToDate
import SceneScript.Scalar.Double

/-!
# Upgraded directives are up to date

What a part of a rule has done stays done: the later parts edit other parameters, and the definitions
in front of what is left answer other questions. `Brings` says so of one part: which names it edits,
under which types and names it defines something, and what holds of what it leaves.

So the directives of filters, integrators, cameras, materials and area lights are up to date once
they are upgraded, and a second upgrade has nothing to do (`upgrades_are_final`).
-/

set_option autoImplicit false

namespace SceneScript.Upgrade

open Dictionary Contents Rule

variable {α : Type} {names : List String} {keys : List (String × String)} {type name : String}
  {ds : List (Param α)} {c c' : Contents α} {holds more : Contents α → Prop}

/-! ## What is carried to the end -/

/-- What a part of a rule has done. -/
structure Brings (names : List String) (keys : List (String × String))
    (holds : Contents α → Prop) (c : Contents α) (ds : List (Param α)) (c' : Contents α) : Prop where
  trimmed : Trimmed names c c'
  keyed : Keyed keys ds
  left : holds c'

theorem Brings.nothing (left : holds c) : Brings names keys holds c [] c :=
  ⟨.refl, .nil, left⟩

theorem Brings.mono (brings : Brings names keys holds c ds c') (weaker : holds c' → more c') :
    Brings names keys more c ds c' :=
  ⟨brings.trimmed, brings.keyed, weaker brings.left⟩

/-- An answer under a name that is not edited and a key that is not defined stays to the end. -/
theorem find?_carried (later : Trimmed names c c') (keyed : Keyed keys ds)
    (apart : name ∉ presentNames ++ names)
    (free : ∀ k ∈ keys, ¬ (modernType k.1 = type ∧ k.2 = name)) :
    (c'.prepend ds).find? (hasType type name) = c.find? (hasType type name) :=
  (keyed.find?_prepend free).trans ((later.sameOn apart).find? type)

/-- A part that a directive of another name does not go through. -/
theorem brings_optional {cond : Prop} [Decidable cond] {rule : Rule α (List (Param α))}
    (brings : rule.Leaves c (Brings names keys holds c)) :
    Leaves (if cond then rule else pure []) c (Brings names keys (fun c' => cond → holds c') c) := by
  split
  · exact brings.mono fun _ _ h => h.mono fun left _ => left
  · rename_i other
    exact .pure (.nothing fun cond => absurd cond other)

/-- A part without definitions that a directive of another name does not go through. -/
theorem leaves_optional {cond : Prop} [Decidable cond] {rule : Rule α Unit}
    (leaves : rule.Leaves c fun _ c' => Trimmed names c c' ∧ holds c') :
    Leaves (if cond then rule else pure ()) c fun _ c' =>
      Trimmed names c c' ∧ (cond → holds c') := by
  split
  · exact leaves.mono fun _ _ h => ⟨h.1, fun _ => h.2⟩
  · rename_i other
    exact .pure ⟨.refl, fun cond => absurd cond other⟩

/-! ## Parts of rules -/

theorem leaves_remove : Leaves (remove type name : Rule α Unit) c fun _ c' =>
    Trimmed [name] c c' ∧ c'.Lacks type name :=
  .remove ⟨.remove (List.mem_singleton_self name), lacks_remove⟩

variable [Scalar α] {loc : Location α}

/-- A parameter that is replaced by a definition under another type or name. -/
theorem brings_replace {oldType old : String} {values : List (ParamValue α)} :
    Leaves (do
      remove oldType old
      return [.define type name values] : Rule α (List (Param α))) c
        (Brings [old] [(type, name)] (·.Lacks oldType old) c) :=
  leaves_remove.bind fun _ _ ⟨trimmed, lacks⟩ => .pure ⟨trimmed, .define, lacks⟩

theorem brings_bumpMap : Leaves (bumpMap : Rule α (List (Param α))) c
    (Brings ["bumpmap"] [("texture", "displacement")] (·.word "texture" "bumpmap" = "") c) := by
  rw [bumpMap]
  apply Leaves.ask
  split
  · rename_i unnamed
    exact .pure (.nothing unnamed)
  · exact brings_replace.mono fun _ _ h => h.mono Lacks.word

theorem brings_filterRadius {before after : String} :
    Leaves (filterRadius before after : Rule α (List (Param α))) c
      (Brings [before] [("float", after)] (fun c' => (c'.numbersOf "float" before).length ≠ 1) c) := by
  rw [filterRadius]
  apply Leaves.ask
  split
  · exact brings_replace.mono fun _ _ h => h.mono fun lacks => by simp [lacks.numbersOf]
  · rename_i several
    exact .pure (.nothing several)

theorem brings_filterFalloff : Leaves (filterFalloff : Rule α (List (Param α))) c
    (Brings ["alpha"] [("float", "sigma")] (fun c' => (c'.numbersOf "float" "alpha").length ≠ 1)
      c) := by
  rw [filterFalloff]
  apply Leaves.ask
  split
  · exact brings_replace.mono fun _ _ h => h.mono fun lacks => by simp [lacks.numbersOf]
  · rename_i several
    refine .pure (.nothing fun one => ?_)
    obtain ⟨a, single⟩ := List.length_eq_one_iff.1 one
    exact several a single

theorem brings_photonIterations : Leaves (photonIterations : Rule α (List (Param α))) c
    (Brings ["imagewritefrequency", "numiterations"] [("integer", "iterations")] (fun c' =>
      c'.Lacks "integer" "imagewritefrequency" ∧ c'.numbersOf "integer" "numiterations" = []) c) := by
  rw [photonIterations]
  refine leaves_remove.bind ?_
  rintro _ c₁ ⟨removed, lacks⟩
  apply Leaves.ask
  split
  · rename_i none
    exact .pure ⟨removed.mono (by decide), .nil, lacks, none⟩
  · refine brings_replace.mono fun _ c₂ h => ⟨removed.andThen h.trimmed, h.keyed, ?_, h.left.numbersOf⟩
    exact (lacks_congr ((h.trimmed.sameOn (by decide)).find? _)).2 lacks

/-- The new strategy is defined in place of the old one. -/
theorem brings_lightStrategy : Leaves (lightStrategy : Rule α (List (Param α))) c fun ds c' =>
    Brings ["lightsamplestrategy"] [("string", "lightsamplestrategy")]
      (·.word "string" "lightsamplestrategy" ≠ "spatial") c ds c' ∧
    ∀ p ∈ ds, p = stringDefinition "lightsamplestrategy" "bvh" := by
  rw [lightStrategy]
  apply Leaves.ask
  split
  · refine leaves_remove.bind ?_
    rintro _ c₁ ⟨removed, lacks⟩
    refine .pure ⟨⟨removed, .define, ?_⟩, ?_⟩
    · rw [lacks.word]
      decide
    · exact fun p => List.mem_singleton.1
  · rename_i other
    exact .pure ⟨.nothing other, by simp⟩

/-! ## Filters, integrators and cameras -/

theorem filterUpToDate_of_upgraded : Leaves (pixelFilter name : Rule α (List (Param α))) c
    fun ds left => FilterUpToDate name (left.prepend ds) := by
  rw [pixelFilter_eq]
  refine brings_filterRadius.bind fun x c₁ hx => ?_
  refine brings_filterRadius.bind fun y c₂ hy => ?_
  refine (brings_optional brings_filterFalloff).bind fun falloff c₃ hfalloff => .pure ?_
  have keyed := (hx.keyed.append hy.keyed).append hfalloff.keyed
  constructor
  · rw [numbersOf_congr (find?_carried (hy.trimmed.andThen hfalloff.trimmed) keyed (by decide)
      (by decide))]
    exact hx.left
  · rw [numbersOf_congr (find?_carried hfalloff.trimmed keyed (by decide) (by decide))]
    exact hy.left
  · rw [numbersOf_congr (keyed.find?_prepend (by decide))]
    exact hfalloff.left

theorem integratorUpToDate_of_upgraded : Leaves (integrator name : Rule α (Upgraded α)) c
    fun u left => IntegratorUpToDate u.name (left.prepend u.definitions) := by
  rw [integrator_eq]
  refine (brings_optional brings_photonIterations).bind fun photons c₁ hphotons => ?_
  refine brings_lightStrategy.bind ?_
  rintro strategy c₂ ⟨hstrategy, bvh⟩
  refine .pure ?_
  -- the depth of direct lighting has nothing to do with the rest
  have upToDate {present : String} {depth : List (Param α)}
      (hdepth : Keyed [("integer", "maxdepth")] depth) (traced : present ≠ "directlighting")
      (same : present = "sppm" → name = "sppm") :
      IntegratorUpToDate present (c₂.prepend (photons ++ strategy ++ depth)) := by
    have keyed := (hphotons.keyed.append hstrategy.keyed).append hdepth
    refine ⟨traced, fun sppm => ?_, fun sppm => ?_, ?_⟩
    · rw [lacks_congr (find?_carried hstrategy.trimmed keyed (by decide) (by decide))]
      exact (hphotons.left (same sppm)).1
    · rw [numbersOf_congr (find?_carried hstrategy.trimmed keyed (by decide) (by decide))]
      exact (hphotons.left (same sppm)).2
    · refine word_prepend_ne hstrategy.left fun p hp asked => ?_
      simp only [List.mem_append] at hp
      rcases hp with (photon | new) | deep
      · exact absurd (hphotons.keyed.key_of_hasType photon asked) (by decide)
      · rw [bvh p new]
        simp [stringDefinition, Param.define, Param.ofValues, Param.push]
      · exact absurd (hdepth.key_of_hasType deep asked) (by decide)
  split
  · exact upToDate .define (by simp) (by simp)
  · rename_i traced
    simpa using upToDate .nil traced id

theorem cameraUpToDate_of_upgraded : Leaves (camera name : Rule α (Upgraded α)) c
    fun u left => CameraUpToDate u.name (left.prepend u.definitions) := by
  by_cases environment : name = "environment"
  · rw [camera, if_pos environment]
    exact .pure ⟨by simp, by simp⟩
  · rw [camera_eq environment]
    refine (leaves_optional leaves_remove).bind ?_
    rintro _ c₁ ⟨-, lacks⟩
    exact .pure ⟨environment, lacks⟩

/-! ## Materials -/

theorem present_coated {coat : List String} : Leaves (coated loc coat) c fun n _ => Present n := by
  rw [coated]
  refine Leaves.any.bind fun matte _ _ => ?_
  split
  · exact Leaves.any.bind fun _ _ _ => .pure (by decide)
  · exact .pure (by decide)

theorem present_uber : Leaves (uber loc) c fun n _ => Present n := by
  rw [uber]
  refine present_coated.bind fun n _ present => ?_
  refine Leaves.any.bind fun _ _ _ => Leaves.any.bind fun _ _ _ => ?_
  exact Leaves.any.bind fun _ _ _ => Leaves.any.bind fun _ _ _ => .pure present

theorem present_substrate : Leaves (substrate loc) c fun n _ => Present n := by
  rw [substrate]
  exact Leaves.any.bind fun _ _ _ => Leaves.any.bind fun _ _ _ => .pure (by decide)

theorem present_glass : Leaves (glass loc) c fun n _ => Present n := by
  rw [glass]
  exact Leaves.any.bind fun _ _ _ => Leaves.any.bind fun _ _ _ => .pure (by decide)

theorem present_plastic : Leaves (plastic loc) c fun n _ => Present n := by
  rw [plastic]
  exact present_coated.bind fun n _ present => Leaves.any.bind fun _ _ _ => .pure present

theorem present_metal : Leaves (metal loc) c fun n _ => Present n := by
  rw [metal]
  exact Leaves.any.bind fun _ _ _ => .pure (by decide)

theorem present_translucent : Leaves (translucent loc) c fun n _ => Present n := by
  rw [translucent]
  refine Leaves.any.bind fun _ _ _ => Leaves.any.bind fun _ _ _ => ?_
  refine Leaves.any.bind fun _ _ _ => Leaves.any.bind fun _ _ _ => ?_
  exact Leaves.any.bind fun _ _ _ => .pure (by decide)

/-- The amount of a mixture has no color any more. -/
theorem leaves_mixAmount : Leaves (mixAmount loc) c fun ds c' =>
    Keyed [("float", "amount")] ds ∧ c'.Colorless "amount" := by
  rw [mixAmount]
  -- the end of the rule, whatever the amount becomes
  have removes {ds : List (Param α)} (keyed : Keyed [("float", "amount")] ds) : Leaves (do
      removeColor "amount"
      return ds : Rule α (List (Param α))) c fun ds c' =>
        Keyed [("float", "amount")] ds ∧ c'.Colorless "amount" :=
    .removeColor_bind (.pure ⟨keyed, colorless_removeColor⟩)
  apply Leaves.ask
  dsimp only
  split
  · split
    · exact .pure_bind (removes .define)
    · exact .report (.pure_bind (removes .define))
  · have reported (unusable : Bool) : Leaves (do
        if unusable then
          let d ← Action.get
          report .error loc
            ("Unable to update non-RGB spectrum \"amount\" to a scalar: " ++ d.definition "amount")
        removeColor "amount"
        return [] : Rule α (List (Param α))) c fun ds c' =>
          Keyed [("float", "amount")] ds ∧ c'.Colorless "amount" := by
      split
      · exact .get fun d _ => .report (removes .nil)
      · exact removes .nil
    apply Leaves.hasColor
    split
    · exact .pure_bind (reported true)
    · exact .ask (.pure_bind (reported _))

/-- The types and names under which a material defines something, apart from its index of refraction
and its displacement. -/
def materialKeys : List (String × String) :=
  [("float", "amount"), ("float", "roughness"), ("spectrum", "eta"), ("spectrum", "k")]

/-- A material gets a name that no rule is about, or keeps its name and has nothing to change. -/
theorem settled_materialBody : Leaves (materialBody name loc) c fun u c' =>
    Keyed materialKeys u.definitions ∧
      (Present u.name ∨ u.name = "fourier" ∨ u.name = "mix" ∧ c'.Colorless "amount") := by
  have renamed {rule : Rule α String} (named : rule.Leaves c fun n _ => Present n) :
      Leaves (do return ⟨← rule, []⟩ : Rule α (Upgraded α)) c fun u c' =>
        Keyed materialKeys u.definitions ∧
          (Present u.name ∨ u.name = "fourier" ∨ u.name = "mix" ∧ c'.Colorless "amount") :=
    named.bind fun _ _ present => .pure ⟨.nil, Or.inl present⟩
  have reflectance {present : String} (named : Present present) : Leaves (do
      rename "Kd" "reflectance"
      return ⟨present, []⟩ : Rule α (Upgraded α)) c fun u c' =>
        Keyed materialKeys u.definitions ∧
          (Present u.name ∨ u.name = "fourier" ∨ u.name = "mix" ∧ c'.Colorless "amount") :=
    Leaves.any.bind fun _ _ _ => .pure ⟨.nil, Or.inl named⟩
  unfold materialBody
  split
  · exact renamed present_uber
  · refine leaves_mixAmount.bind ?_
    rintro _ _ ⟨keyed, colorless⟩
    exact .pure ⟨keyed.mono (by decide), Or.inr (Or.inr ⟨rfl, colorless⟩)⟩
  · exact renamed present_substrate
  · exact renamed present_glass
  · exact renamed present_plastic
  · exact .report (.pure ⟨.nil, Or.inr (Or.inl rfl)⟩)
  · exact reflectance (by decide)
  · exact reflectance (by decide)
  · exact renamed present_metal
  · exact renamed present_translucent
  · refine Leaves.any.bind fun _ _ _ => .pure ⟨?_, Or.inl (show Present "conductor" by decide)⟩
    have silver : Keyed ([("float", "roughness")] ++ [("spectrum", "eta")] ++ [("spectrum", "k")])
        (mirrorDefinitions : List (Param α)) :=
      (Keyed.define.append .define).append .define
    exact silver.mono (by decide)
  · exact .pure ⟨.nil, Or.inl (by simp_all [Present, Subject.testedNames])⟩

theorem keyed_refraction : Leaves (refraction name loc) c fun ds _ =>
    Keyed [("texture", "eta"), ("float", "eta")] ds := by
  rw [refraction]
  split
  · exact .pure .nil
  · apply Leaves.ask
    split
    · apply Leaves.ask
      split
      · exact .refuse _ _
      · exact .remove_bind (.pure (Keyed.define.mono (by decide)))
    · apply Leaves.ask
      split
      · exact .pure .nil
      · apply Leaves.ask
        split
        · exact .refuse _ _
        · exact .remove_bind (.pure (Keyed.define.mono (by decide)))
      · exact .refuse _ _

theorem materialUpToDate_of_upgraded : Leaves (material name loc) c
    fun u left => MaterialUpToDate u.name (left.prepend u.definitions) := by
  rw [material]
  refine keyed_refraction.bind fun eta c₁ heta => ?_
  refine brings_bumpMap.bind fun bump c₂ hbump => ?_
  refine ((revised_materialBody name loc).and settled_materialBody).bind ?_
  rintro body c₃ ⟨revised, hbody, settled⟩
  refine .pure ?_
  have keyed := (heta.append hbump.keyed).append hbody
  constructor
  · exact settled.imp_right (.imp_right (.imp_right (keyed.colorless_prepend (by decide)).2))
  · rw [word_congr (find?_carried revised.trimmed keyed (by decide) (by decide))]
    exact hbump.left

/-! ## Emission -/

/-- The definitions of a light, in front of what is left, put its strength in no color. -/
theorem emissionUpToDate_prepend {left : Contents α}
    (keyed : Keyed [("string", "imagefile"), ("float", "scale")] ds)
    (scale : left.Colorless "scale") (samples : left.Lacks "integer" "nsamples")
    (colors : ∀ color ∈ ["L", "I"], SameOn color c.stripped left ∨ left.Colorless color) :
    EmissionUpToDate (left.prepend (c.temperature "L" ++ c.temperature "I" ++ ds)) := by
  have temperature (color : String) : Keyed [("blackbody", color)] (c.temperature color) :=
    keyed_temperature
  have all := ((temperature "L").append (temperature "I")).append keyed
  refine ⟨(all.colorless_prepend (by decide)).2 scale, fun color mem => ?_,
    (lacks_congr (all.find?_prepend (by decide))).2 samples⟩
  refine not_hasStrength_prepend ?_ fun p hp asked => ?_
  · rcases colors color mem with same | colorless
    · exact mt same.hasStrength_iff.1 (not_hasStrength_stripped mem)
    · exact colorless.not_hasStrength
  · simp only [List.mem_append] at hp
    rcases hp with (l | i) | other
    · exact length_numbers_of_mem_temperature l
    · exact length_numbers_of_mem_temperature i
    · obtain ⟨k, given, blackbody, -⟩ := keyed.key_of_hasType other asked
      exact absurd blackbody (by revert k; decide)

theorem areaLightUpToDate_of_upgraded : Leaves (areaLight name loc) c
    fun u left => AreaLightUpToDate u.name (left.prepend u.definitions) := by
  by_cases tinted : c.Tinted "scale"
  · exact (refuses_areaLight tinted).leaves
  · refine (yields_areaLight tinted).leaves ⟨?_, ?_⟩
    · refine emissionUpToDate_prepend (keyed_scaleDefinition.mono (by decide))
        colorless_stripped.withoutScale ?_ fun color mem => Or.inl (sameOn_withoutScale ?_)
      · exact (lacks_congr ((sameOn_withoutScale (by decide)).find? _)).2 lacks_stripped
      · rintro rfl
        exact absurd mem (by decide)
    · dsimp only
      split
      · decide
      · assumption

/-! ## The second upgrade -/

/-- Filters, integrators, cameras, materials and area lights are final once they are upgraded. Under
the new name, with the definitions in front of what was left, the rule finishes, keeps the name,
defines nothing and leaves all parameters where they are. -/
theorem upgrades_are_final (one : ((1 : α) == 1) = true) {s : Subject}
    (kind : s ∈ [.pixelFilter, .integrator, .camera, .material, .areaLight]) (name : String)
    (loc later : Location α) (d again : Dictionary α) {u : Upgraded α}
    (finished : ((s.rule name loc).run d).result = .ok u)
    (reread : again.contents = ((s.rule name loc).run d).state.contents.prepend u.definitions) :
    ((s.rule u.name later).run again).result = .ok ⟨u.name, []⟩ ∧
      ((s.rule u.name later).run again).state.contents = again.contents := by
  have upToDate : s.UpToDate u.name again.contents := by
    rw [reread]
    simp only [List.mem_cons, List.not_mem_nil, or_false] at kind
    rcases kind with rfl | rfl | rfl | rfl | rfl
    · have final : Leaves (Upgraded.mk name <$> pixelFilter name) d.contents fun u left =>
          FilterUpToDate u.name (left.prepend u.definitions) := .map filterUpToDate_of_upgraded
      exact final d rfl u finished
    · exact integratorUpToDate_of_upgraded d rfl u finished
    · exact cameraUpToDate_of_upgraded d rfl u finished
    · exact materialUpToDate_of_upgraded d rfl u finished
    · exact areaLightUpToDate_of_upgraded d rfl u finished
  exact rests_rule one upToDate again rfl

/-- Control: a second upgrade of an uber material with an index of refraction. -/
theorem upgrades_are_final_uber :
    let color (name : String) : Param Float :=
      ⟨"rgb", name, .unknown, [0.5, 0.25, 0], [], [], false, none⟩
    let index : Param Float := ⟨"float", "index", .unknown, [1.5], [], [], false, none⟩
    let eta : Param Float := floatDefinition "eta" 1.5
    let dictionary (params : List (Param Float)) := Dictionary.ofParams params defaultColorSpace []
    let first := (Subject.material.rule "uber" .unknown).run (dictionary [index, color "Kd"])
    let again := dictionary [eta, color "reflectance"]
    first.result = .ok ⟨"coateddiffuse", [eta]⟩ ∧
      ((Subject.material.rule "coateddiffuse" .unknown).run again).result =
        .ok ⟨"coateddiffuse", []⟩ := by
  intro color index eta dictionary first again
  have run {α : Type} [Scalar α] (x r g b : α) :
      (Subject.material.rule "uber" .unknown).run (Dictionary.ofParams
        [⟨"float", "index", .unknown, [x], [], [], false, none⟩,
          ⟨"rgb", "Kd", .unknown, [r, g, b], [], [], false, none⟩] defaultColorSpace []) =
        ⟨.ok ⟨"coateddiffuse", [floatDefinition "eta" x]⟩, .ofParams
          [⟨"rgb", "reflectance", .unknown, [r, g, b], [], [], false, none⟩]
          defaultColorSpace [], []⟩ := by
    cbv
  have ran : first = _ := run 1.5 0.5 0.25 0
  have finished : first.result = .ok ⟨"coateddiffuse", [eta]⟩ := by rw [ran]
  have reread : again.contents = first.state.contents.prepend [eta] := by
    rw [ran]
    rfl
  exact ⟨finished, (upgrades_are_final (by decide +kernel) (by simp) "uber" .unknown .unknown _ again
    finished reread).1⟩

end SceneScript.Upgrade
