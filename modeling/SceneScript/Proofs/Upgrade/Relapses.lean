import SceneScript.Proofs.Upgrade.BroughtUpToDate
import SceneScript.Proofs.Upgrade.SurrenderedColors

/-!
# Upgraded directives that are upgraded again

Lights, textures and shapes may be left with parameters that only a second upgrade takes up
(`Subject.Relapses`): the color of a projection light, once the name of its image is gone; a truth
value "gamma" beside a number "gamma"; texture coordinates as plain numbers beside points named
"st". In no other case has a second upgrade anything to do (`second_upgrade_rests_iff`), and a third
one never has (`third_upgrade_rests`).
-/

set_option autoImplicit false

namespace SceneScript.Upgrade

open Dictionary Contents Rule

section Conditions

variable {α : Type} [Scalar α]

/-- There are points named "st", and plain numbers beside them. -/
def HidesCoordinates {α : Type} (c : Contents α) : Prop :=
  pairs (c.numbersOf "point2" "st") ≠ [] ∧
    ¬ (c.numbersOf "float" "uv" = [] ∧ c.numbersOf "float" "st" = [])

/-- The first upgrade leaves a directive of this name and with these parameters to a second one. -/
def Subject.Relapses (s : Subject) (name : String) (c : Contents α) : Prop :=
  match s with
  | light => name = "projection" ∧
      (c.HasStrength "I" ∨ c.word "string" "mapname" ≠ "" ∧ ¬ c.Colorless "I")
  | texture => (name = "imagemap" ∨ name = "ptex") ∧ HasGamma c ∧ (c.flags "gamma").length = 1
  | shape => name = "trianglemesh" ∧ HidesCoordinates c
  | _ => False

/-- What the first upgrade makes of a directive, if it has these parameters afterwards: it is up to
date, unless it relapses, and it does not relapse twice. -/
structure Improved (s : Subject) (name : String) (before again : Contents α) : Prop where
  upToDate_iff : s.UpToDate name again ↔ ¬ s.Relapses name before
  settled : ¬ s.Relapses name again

end Conditions

variable {α : Type} {c : Contents α}

/-- Plain numbers of a name are taken out, if there are any; other types stay. -/
theorem leaves_flatCoordinates {flat : String} {found : List (α × α)} :
    Leaves (flatCoordinates flat found) c fun _ c' =>
      Trimmed [flat] c c' ∧ c'.numbersOf "float" flat = [] ∧
        c'.numbersOf "point2" flat = c.numbersOf "point2" flat := by
  rw [flatCoordinates]
  apply Leaves.ask
  split
  · rename_i none
    exact .pure ⟨.refl, List.isEmpty_iff.1 none, rfl⟩
  · refine .remove_bind (.pure ⟨.remove (List.mem_singleton_self flat), numbersOf_remove, ?_⟩)
    exact numbersOf_congr (find?_remove_of_type_ne (by decide))

theorem leaves_renameKd : Leaves (rename "Kd" "reflectance" : Rule α Unit) c fun _ c' =>
    Trimmed ["Kd"] c c' ∧ ∀ p ∈ c'.params, p.name ≠ "Kd" := by
  refine .rename ⟨.rename (by decide) (by decide), fun p mem => ?_⟩
  rw [Contents.params, Contents.rename, ← List.map_append, List.mem_map] at mem
  obtain ⟨q, -, rfl⟩ := mem
  rw [Param.renamed]
  split
  · simp
  · rename_i other
    exact fun same => other (beq_iff_eq.2 same)

variable [Scalar α] {name : String} {loc : Location α}

/-! ## Lights -/

theorem emissionUpToDate_light :
    EmissionUpToDate ((c.lightLeft name).prepend (c.lightDefinitions name)) := by
  have after {other : String} (map : "mapname" ≠ other) (scale : "scale" ≠ other) :
      SameOn other (c.colorSurrendered name) (c.lightLeft name) :=
    (sameOn_withoutMap map).trans (sameOn_withoutScale scale)
  rw [lightDefinitions, List.append_assoc]
  refine emissionUpToDate_prepend ((keyed_imageDefinition.append keyed_scaleDefinition).mono
    (by decide)) ?_ ?_ fun color mem => ?_
  · have gone : (c.colorSurrendered name).Colorless "scale" :=
      (sameOn_colorSurrendered_of_not_mem (by decide)).colorless_iff.2 colorless_stripped
    exact gone.withoutMap.withoutScale
  · have same : SameOn "nsamples" c.stripped (c.lightLeft name) :=
      (sameOn_colorSurrendered_of_not_mem (by decide)).trans (after (by decide) (by decide))
    exact (lacks_congr (same.find? _)).2 lacks_stripped
  · have apart : "mapname" ≠ color ∧ "scale" ≠ color := by
      obtain rfl | rfl : color = "L" ∨ color = "I" := by simpa using mem
      · decide
      · decide
    by_cases asked : ∃ fault, c.surrendered? name = some (color, fault)
    · obtain ⟨fault, surrendered⟩ := asked
      exact Or.inr (colorless_lightLeft surrendered)
    · refine Or.inl ((sameOn_colorSurrendered fun fault h => asked ⟨fault, h⟩).trans ?_)
      exact after apart.1 apart.2

theorem word_light :
    ((c.lightLeft name).prepend (c.lightDefinitions name)).word "string" "mapname" = "" := by
  rw [word_congr (keyed_lightDefinitions.find?_prepend (by decide)), lightLeft,
    (sameOn_withoutScale (by decide)).word]
  exact word_withoutMap

/-- A projection light without an image gives its color up, one with an image keeps it. -/
theorem colorless_projection_iff :
    ((c.lightLeft "projection").prepend (c.lightDefinitions "projection")).Colorless "I" ↔
      ¬ Subject.light.Relapses "projection" c := by
  rw [colorless_lightDefinitions_iff (by decide), Subject.Relapses, and_iff_right rfl, not_or]
  refine and_congr_right fun without => ?_
  by_cases mapped : c.word "string" "mapname" = ""
  · have surrendered : c.surrendered? "projection" = some ("I", .coloredProjectionMap) :=
      surrendered?_eq_some_iff.2 (Or.inr ⟨mapped, rfl, rfl⟩)
    exact iff_of_true (colorless_lightLeft surrendered) fun h => h.1 mapped
  · have keeps (fault : UpgradeFault) : c.surrendered? "projection" ≠ some ("I", fault) := by
      intro surrendered
      rcases surrendered?_eq_some_iff.1 surrendered with ⟨-, infinite, -⟩ | ⟨unmapped, -⟩
      · exact absurd infinite (by decide)
      · exact mapped unmapped
    rw [(sameOn_lightLeft (by decide) without keeps).colorless_iff]
    exact ⟨fun colorless h => h.2 colorless,
      fun h => Decidable.byContradiction fun colored => h ⟨mapped, colored⟩⟩

theorem improved_light : Leaves (light name loc) c fun ds left =>
    Improved .light name c (left.prepend ds) := by
  refine leaves_light_of_no_fault fun _ => ⟨⟨?_, ?_⟩, ?_⟩
  · rintro current ⟨rfl, relapse⟩
    exact colorless_projection_iff.1 (current.projection rfl) ⟨rfl, relapse⟩
  · refine fun steady => ⟨emissionUpToDate_light, word_light, ?_⟩
    rintro rfl
    exact colorless_projection_iff.2 steady
  · rintro ⟨-, has | ⟨mapped, -⟩⟩
    · exact emissionUpToDate_light.colors "I" (by decide) has
    · exact mapped word_light

/-! ## Textures -/

theorem brings_file {before after : String} : Leaves (do
      let file ← look (Dictionary.oneString before "")
      if file = "" then return []
      else
        remove "string" before
        return [stringDefinition after file] : Rule α (List (Param α))) c
      (Brings [before] [("string", after)] (·.word "string" before = "") c) := by
  apply Leaves.ask
  split
  · rename_i unnamed
    exact .pure (.nothing unnamed)
  · exact brings_replace.mono fun _ _ h => h.mono Lacks.word

/-- A single truth value that is replaced by a definition. Numbers of the same name stay. -/
theorem brings_flags {flag type name : String} {values : Bool → List (ParamValue α)} : Leaves (do
      let flags ← look (Dictionary.bools flag)
      match flags with
      | [on] => do
        remove "bool" flag
        return [.define type name (values on)]
      | _ => return [] : Rule α (List (Param α))) c
      (Brings [flag] [(type, name)] (fun c' => (c'.flags flag).length ≠ 1 ∧
        c'.numbersOf "float" flag = c.numbersOf "float" flag) c) := by
  apply Leaves.ask
  split
  · refine .remove_bind (.pure ⟨.remove (List.mem_singleton_self flag), .define, ?_, ?_⟩)
    · rw [lacks_remove.flags]
      exact Nat.zero_ne_one
    · exact numbersOf_congr (find?_remove_of_type_ne (by decide))
  · rename_i several
    refine .pure (.nothing ⟨fun one => ?_, rfl⟩)
    obtain ⟨on, single⟩ := List.length_eq_one_iff.1 one
    exact several on single

/-- After an encoding is defined, the number "gamma" is gone, or there was none; then a single truth
value is gone, too. -/
theorem brings_imageEncoding (zero : ((0 : α) == 0) = true) :
    Leaves (imageEncoding : Rule α (List (Param α))) c (Brings ["gamma"] [("string", "encoding")]
      (fun c' => ¬ HasGamma c' ∧
        ((c'.flags "gamma").length = 1 ↔ HasGamma c ∧ (c.flags "gamma").length = 1)) c) := by
  rw [imageEncoding]
  apply Leaves.ask
  rw [bind_numbers_head?]
  split
  · rename_i gamma
    refine Leaves.remove_bind (.pure ⟨.remove (by decide), .define, ?_, ?_⟩)
    · rw [HasGamma, numbersOf_remove]
      simp [bne, zero]
    · rw [flags_congr (find?_remove_of_type_ne (by decide))]
      exact (and_iff_right gamma).symm
  · rename_i noGamma
    refine brings_flags.mono fun _ c' h => h.mono ?_
    rintro ⟨several, same⟩
    refine ⟨?_, ?_⟩
    · rwa [HasGamma, same]
    · exact iff_of_false several fun h => noGamma h.1

theorem improved_texture (zero : ((0 : α) == 0) = true) :
    Leaves (texture name : Rule α (List (Param α))) c fun ds left =>
      Improved .texture name c (left.prepend ds) := by
  rw [texture_eq]
  refine (brings_optional brings_flags).bind fun filter c₁ hfilter => ?_
  refine (brings_optional brings_file).bind fun file c₂ hfile => ?_
  refine (brings_optional (brings_imageEncoding zero)).bind fun encoding c₃ hencoding => .pure ?_
  have keyed := (hfilter.keyed.append hfile.keyed).append hencoding.keyed
  -- what the encoding is made of is not touched before, and not defined
  have before : SameOn "gamma" c c₂ := (hfilter.trimmed.andThen hfile.trimmed).sameOn (by decide)
  have was : HasGamma c₂ ↔ HasGamma c := by rw [HasGamma, HasGamma, before.numbersOf]
  have gamma : HasGamma (c₃.prepend (filter ++ file ++ encoding)) ↔ HasGamma c₃ := by
    rw [HasGamma, HasGamma, numbersOf_congr (keyed.find?_prepend (by decide))]
  have flag (image : name = "imagemap" ∨ name = "ptex") :
      ((c₃.prepend (filter ++ file ++ encoding)).flags "gamma").length = 1 ↔
        HasGamma c ∧ (c.flags "gamma").length = 1 := by
    rw [flags_congr (keyed.find?_prepend (by decide)), (hencoding.left image).2, was,
      flags_congr (before.find? _)]
  refine ⟨⟨?_, fun steady => ⟨fun image => ?_, fun image => ?_, fun image => ?_, ?_⟩⟩, ?_⟩
  · rintro current ⟨image, relapse⟩
    exact current.flag image ((flag image).2 relapse)
  · rw [flags_congr (find?_carried (hfile.trimmed.andThen hencoding.trimmed) keyed (by decide)
      (by decide))]
    exact (hfilter.left image).1
  · rw [word_congr (find?_carried hencoding.trimmed keyed (by decide) (by decide))]
    exact hfile.left image
  · exact mt gamma.1 (hencoding.left image).1
  · exact fun image one => steady ⟨image, (flag image).1 one⟩
  · rintro ⟨image, has, -⟩
    exact (hencoding.left image).1 (gamma.1 has)

/-! ## Shapes -/

theorem leaves_loneFace {corners : Nat} : Leaves (loneFace corners : Rule α Unit) c fun _ c' =>
    Trimmed ["indices"] c c' ∧ (corners ≠ 0 → ¬ LoneFace corners c') := by
  rw [loneFace]
  apply Leaves.ask
  split
  · apply Leaves.ask
    split
    · refine leaves_remove.mono ?_
      rintro _ _ ⟨trimmed, lacks⟩
      refine ⟨trimmed, fun some face => ?_⟩
      rw [LoneFace, lacks.numbersOf] at face
      exact some face.1.symm
    · rename_i several
      refine .pure ⟨.refl, fun _ face => several ?_⟩
      rw [Bool.and_eq_true, decide_eq_true_iff]
      exact face.2
  · rename_i several
    exact .pure ⟨.refl, fun _ face => several face.1⟩

theorem brings_subdivisionLevels : Leaves (subdivisionLevels : Rule α (List (Param α))) c
    (Brings ["nlevels"] [("integer", "levels")] (·.numbersOf "integer" "nlevels" = []) c) := by
  rw [subdivisionLevels]
  apply Leaves.ask
  split
  · rename_i none
    exact .pure (.nothing none)
  · exact brings_replace.mono fun _ _ h => h.mono Lacks.numbersOf

/-- The points that were found are defined again. -/
theorem brings_points {found : List (α × α)} {holds : Contents α → Prop} {c₁ : Contents α}
    (trimmed : Trimmed ["st", "uv"] c c₁) (held : holds c₁) : Leaves (do
      if found.isEmpty then return []
      else
        return [.define "point2" "uv" (found.flatMap (fun p => [.number p.1, .number p.2]))] :
          Rule α (List (Param α))) c₁ (Brings ["st", "uv"] [("point2", "uv")] holds c) := by
  split
  · exact .pure ⟨trimmed, .nil, held⟩
  · exact .pure ⟨trimmed, .define, held⟩

/-- Points named "st" are taken out and nothing else; without them, all plain numbers are. -/
theorem brings_coordinates : Leaves (coordinates : Rule α (List (Param α))) c
    (Brings ["st", "uv"] [("point2", "uv")] (fun c' => pairs (c'.numbersOf "point2" "st") = [] ∧
      (CoordinatesUpToDate c' ↔ ¬ HidesCoordinates c)) c) := by
  rw [coordinates]
  apply Leaves.ask
  dsimp only
  split
  · rename_i some
    have given : pairs (c.numbersOf "point2" "st") ≠ [] := by simpa [numbersOf] using some
    have gone : pairs ((c.removeWhere (hasType "point2" "st")).numbersOf "point2" "st") = [] := by
      rw [numbersOf_remove]
      rfl
    refine .remove_bind (.pure_bind (brings_points (.remove (by decide)) ⟨gone, ?_⟩))
    -- plain numbers are left, and are all that can be in the way
    have uv : (c.removeWhere (hasType "point2" "st")).numbersOf "float" "uv" =
        c.numbersOf "float" "uv" := SameOn.numbersOf (.remove (by decide)) _
    have st : (c.removeWhere (hasType "point2" "st")).numbersOf "float" "st" =
        c.numbersOf "float" "st" := numbersOf_congr (find?_remove_of_type_ne (by decide))
    rw [HidesCoordinates, and_iff_right given, Classical.not_not, ← uv, ← st]
    exact and_iff_right gone
  · rename_i none
    have points : pairs (c.numbersOf "point2" "st") = [] := by simpa [numbersOf] using none
    refine leaves_flatCoordinates.bind ?_
    rintro found c₁ ⟨uv, noUV, -⟩
    refine leaves_flatCoordinates.bind ?_
    rintro found c₂ ⟨st, noST, same⟩
    have none : pairs (c₂.numbersOf "point2" "st") = [] := by
      rwa [same, (uv.sameOn (by decide)).numbersOf]
    refine brings_points ((uv.andThen st).mono (by decide))
      ⟨none, iff_of_true ⟨none, ?_, noST⟩ ?_⟩
    · rwa [(st.sameOn (by decide)).numbersOf]
    · exact fun hides => hides.1 points

omit [Scalar α] in
/-- Rules that edit other names leave hidden coordinates as they are. -/
theorem hidesCoordinates_congr {c' : Contents α} (st : SameOn "st" c c') (uv : SameOn "uv" c c') :
    HidesCoordinates c' ↔ HidesCoordinates c := by
  rw [HidesCoordinates, HidesCoordinates, st.numbersOf, st.numbersOf, uv.numbersOf]

omit [Scalar α] in
/-- Later parts of a rule and definitions of other names leave texture coordinates as they are. -/
theorem coordinatesUpToDate_carried {names : List String} {keys : List (String × String)}
    {ds : List (Param α)} {c' : Contents α} (later : Trimmed names c c') (keyed : Keyed keys ds)
    (st : "st" ∉ presentNames ++ names) (uv : "uv" ∉ presentNames ++ names)
    (free : ∀ k ∈ keys, k.2 ≠ "st" ∧ ¬ (modernType k.1 = "float" ∧ k.2 = "uv")) :
    CoordinatesUpToDate (c'.prepend ds) ↔ CoordinatesUpToDate c := by
  have points (type : String) :
      (c'.prepend ds).numbersOf type "st" = c.numbersOf type "st" :=
    numbersOf_congr (find?_carried later keyed st fun k mem key => (free k mem).1 key.2)
  have plain : (c'.prepend ds).numbersOf "float" "uv" = c.numbersOf "float" "uv" :=
    numbersOf_congr (find?_carried later keyed uv fun k mem => (free k mem).2)
  rw [CoordinatesUpToDate, CoordinatesUpToDate, points, points, plain]

omit [Scalar α] in
/-- A name that neither stands in what is left nor in the definitions. -/
theorem unnamed_prepend {keys : List (String × String)} {ds : List (Param α)}
    (left : ∀ p ∈ c.params, p.name ≠ name) (keyed : Keyed keys ds) (free : ∀ k ∈ keys, k.2 ≠ name) :
    ∀ p ∈ (c.prepend ds).params, p.name ≠ name := by
  rw [params_prepend, List.forall_mem_append]
  exact ⟨fun p new => free _ (keyed p new), left⟩

theorem improved_shape : Leaves (shape name : Rule α (List (Param α))) c fun ds left =>
    Improved .shape name c (left.prepend ds) := by
  rw [shape_eq]
  refine (leaves_optional leaves_loneFace).bind ?_
  rintro _ c₁ ⟨indices, hindices⟩
  refine (brings_optional brings_subdivisionLevels).bind fun levels c₂ hlevels => ?_
  refine (leaves_optional leaves_remove).bind ?_
  rintro _ c₃ ⟨degenerate, hdegenerate⟩
  refine (brings_optional brings_file).bind fun file c₄ hfile => ?_
  refine (brings_optional brings_coordinates).bind fun uv c₅ huv => ?_
  refine brings_bumpMap.bind fun bump c₆ hbump => ?_
  refine leaves_renameKd.bind ?_
  rintro _ c₇ ⟨renamed, hrenamed⟩
  refine .pure ?_
  have keyed := ((hlevels.keyed.append hfile.keyed).append huv.keyed).append hbump.keyed
  -- what comes after each part
  have afterUV := hbump.trimmed.andThen renamed
  have afterFile := huv.trimmed.andThen afterUV
  have afterDegenerate := hfile.trimmed.andThen afterFile
  have afterLevels := degenerate.andThen afterDegenerate
  have afterIndices := hlevels.trimmed.andThen afterLevels
  -- the coordinates are not touched before, and no others are left after
  have before := indices.andThen (hlevels.trimmed.andThen (degenerate.andThen hfile.trimmed))
  have hides : HidesCoordinates c₄ ↔ HidesCoordinates c :=
    hidesCoordinates_congr (before.sameOn (by decide)) (before.sameOn (by decide))
  have points : (c₇.prepend (levels ++ file ++ uv ++ bump)).numbersOf "point2" "st" =
      c₅.numbersOf "point2" "st" := numbersOf_congr (find?_carried afterUV keyed (by decide) (by decide))
  have coordinates (triangles : name = "trianglemesh") :
      CoordinatesUpToDate (c₇.prepend (levels ++ file ++ uv ++ bump)) ↔ ¬ HidesCoordinates c := by
    rw [← hides, ← (huv.left triangles).2]
    exact coordinatesUpToDate_carried afterUV keyed (by decide) (by decide) (by decide)
  refine ⟨⟨?_, fun steady => ⟨fun mesh => ?_, fun subdivided => ?_, fun mesh => ?_, fun ply => ?_,
    fun triangles => ?_, ?_, ?_⟩⟩, ?_⟩
  · rintro current ⟨triangles, relapse⟩
    exact (coordinates triangles).1 (current.coordinates triangles) relapse
  · rw [LoneFace, numbersOf_congr (find?_carried afterIndices keyed (by decide) (by decide)),
      numbersOf_congr (find?_carried afterIndices keyed (by decide) (by decide))]
    exact hindices mesh mesh
  · rw [numbersOf_congr (find?_carried afterLevels keyed (by decide) (by decide))]
    exact hlevels.left subdivided
  · rw [lacks_congr (find?_carried afterDegenerate keyed (by decide) (by decide))]
    exact hdegenerate (by simpa using mesh)
  · rw [word_congr (find?_carried afterFile keyed (by decide) (by decide))]
    exact hfile.left ply
  · exact (coordinates triangles).2 fun relapse => steady ⟨triangles, relapse⟩
  · rw [word_congr (find?_carried renamed keyed (by decide) (by decide))]
    exact hbump.left
  · exact unnamed_prepend hrenamed keyed (by decide)
  · rintro ⟨triangles, given, -⟩
    rw [points] at given
    exact given (huv.left triangles).1

/-! ## A second upgrade -/

theorem improved_rule (zero : ((0 : α) == 0) = true) {s : Subject}
    (kind : s ∈ [.light, .texture, .shape]) : Leaves (s.rule name loc) c fun u left =>
      u.name = name ∧ Improved s name c (left.prepend u.definitions) := by
  simp only [List.mem_cons, List.not_mem_nil, or_false] at kind
  rcases kind with rfl | rfl | rfl
  · exact .map (improved_light.mono fun _ _ improved => ⟨rfl, improved⟩)
  · exact .map ((improved_texture zero).mono fun _ _ improved => ⟨rfl, improved⟩)
  · exact .map (improved_shape.mono fun _ _ improved => ⟨rfl, improved⟩)

/-- A directive that is upgraded has no need of a second upgrade if it does not relapse. -/
theorem rests_of_improved (one : ((1 : α) == 1) = true) {s : Subject} {before : Contents α}
    (improved : Improved s name before c) (steady : ¬ s.Relapses name before) :
    (s.rule name loc).Yields c ⟨name, []⟩ c :=
  rests_rule one (improved.upToDate_iff.2 steady)

/-- The second upgrade of a light, a texture or a shape, with the definitions of the first one in
front of what that has left, finishes, defines nothing and leaves all parameters where they are, if
and only if the directive does not relapse. -/
theorem second_upgrade_rests_iff (one : ((1 : α) == 1) = true) (zero : ((0 : α) == 0) = true)
    {s : Subject} (kind : s ∈ [.light, .texture, .shape]) (name : String) (loc later : Location α)
    (d again : Dictionary α) {u : Upgraded α}
    (finished : ((s.rule name loc).run d).result = .ok u)
    (reread : again.contents = ((s.rule name loc).run d).state.contents.prepend u.definitions) :
    (((s.rule u.name later).run again).result = .ok ⟨u.name, []⟩ ∧
      ((s.rule u.name later).run again).state.contents = again.contents) ↔
        ¬ s.Relapses name d.contents := by
  obtain ⟨same, first⟩ := improved_rule zero kind d rfl u finished
  rw [← reread] at first
  rw [same]
  constructor
  · -- a second upgrade that rests is a first one from where it rests, and does not relapse
    rintro ⟨rested, left⟩
    have second := (improved_rule zero kind again rfl _ rested).2
    rw [left, prepend_nil] at second
    exact first.upToDate_iff.1 (second.upToDate_iff.2 first.settled)
  · exact fun steady => rests_of_improved one first steady again rfl

/-- Control: the second upgrade of a subdivision surface. -/
theorem second_upgrade_rests_iff_loopsubdiv :
    let given : Param Float := ⟨"integer", "nlevels", .unknown, [3], [], [], false, none⟩
    let levels : Param Float := intDefinition "levels" 3
    let upgrade (ps : List (Param Float)) :=
      (Subject.shape.rule "loopsubdiv" .unknown).run (Writer.dictionary ps)
    (upgrade [given]).result = .ok ⟨"loopsubdiv", [levels]⟩ ∧
      (upgrade [levels]).result = .ok ⟨"loopsubdiv", []⟩ := by
  intro given levels upgrade
  have run {α : Type} [Scalar α] (n : α) :
      (Subject.shape.rule "loopsubdiv" .unknown).run
          (Writer.dictionary [⟨"integer", "nlevels", .unknown, [n], [], [], false, none⟩]) =
        ⟨.ok ⟨"loopsubdiv", [intDefinition "levels" n]⟩, Writer.dictionary [], []⟩ := by
    cbv
  have ran : upgrade [given] = _ := run 3
  have finished : (upgrade [given]).result = .ok ⟨"loopsubdiv", [levels]⟩ := by rw [ran]
  have reread : (Writer.dictionary [levels]).contents =
      (upgrade [given]).state.contents.prepend [levels] := by
    rw [ran]
    rfl
  have steady : ¬ Subject.shape.Relapses "loopsubdiv" (Writer.dictionary [given]).contents :=
    fun relapses => absurd relapses.1 (by decide)
  exact ⟨finished, ((second_upgrade_rests_iff (by decide +kernel) (by decide +kernel) (by simp)
    "loopsubdiv" .unknown .unknown _ (Writer.dictionary [levels]) finished reread).2 steady).1⟩

/-- A second upgrade refuses a projection light that has kept its color, and defines the coordinates
of a mesh once more. -/
theorem second_upgrade_takes_up_leftovers :
    let image : Param Float := stringDefinition "imagefile" "m.exr"
    let warm : Param Float := ⟨"spectrum", "I", .unknown, [], ["warm"], [], false, none⟩
    let points (x y : Float) : Param Float := .define "point2" "uv" [.number x, .number y]
    let plain : Param Float := ⟨"float", "uv", .unknown, [1, 0], [], [], false, none⟩
    let upgrade (rule : Rule Float (List (Param Float))) (ps : List (Param Float)) :=
      rule.run (Writer.dictionary ps)
    let lamp := upgrade (light "projection" .unknown)
      [⟨"string", "mapname", .unknown, [], ["m.exr"], [], false, none⟩, warm]
    let mesh := upgrade (shape "trianglemesh")
      [⟨"point2", "st", .unknown, [0, 0], [], [], false, none⟩, plain]
    (lamp.result = .ok [image] ∧ lamp.state.params = [warm] ∧
      (upgrade (light "projection" .unknown) [image, warm]).result =
        .error ⟨.unknown, .coloredProjectionMap⟩) ∧
    mesh.result = .ok [points 0 0] ∧ mesh.state.params = [plain] ∧
      (upgrade (shape "trianglemesh") [points 0 0, plain]).result = .ok [points 1 0] := by
  intro image warm points plain upgrade lamp mesh
  constructor
  · -- no number is compared before the last part of the rule, and none if the light is refused
    have kept {α : Type} [Scalar α] : (light "projection" .unknown : Rule α (List (Param α))).run
        (Writer.dictionary [⟨"string", "mapname", .unknown, [], ["m.exr"], [], false, none⟩,
          ⟨"spectrum", "I", .unknown, [], ["warm"], [], false, none⟩]) =
        (scaleWith 1 >>= fun scale => pure ([stringDefinition "imagefile" "m.exr"] ++ scale)).run
          (Writer.dictionary [⟨"spectrum", "I", .unknown, [], ["warm"], [], false, none⟩]) := by
      cbv
    have refused {α : Type} [Scalar α] :
        ((light "projection" .unknown : Rule α (List (Param α))).run (Writer.dictionary
          [stringDefinition "imagefile" "m.exr",
            ⟨"spectrum", "I", .unknown, [], ["warm"], [], false, none⟩])).result =
          .error ⟨.unknown, .coloredProjectionMap⟩ := by
      cbv
    have one : ((1 : Float) == 1) = true := by decide +kernel
    rw [show lamp = _ from kept, scaleWith, one]
    exact ⟨rfl, rfl, refused⟩
  · have first {α : Type} [Scalar α] (x y u v : α) :
        (shape "trianglemesh" : Rule α (List (Param α))).run (Writer.dictionary
          [⟨"point2", "st", .unknown, [x, y], [], [], false, none⟩,
            ⟨"float", "uv", .unknown, [u, v], [], [], false, none⟩]) =
          ⟨.ok [.define "point2" "uv" [.number x, .number y]], Writer.dictionary
            [⟨"float", "uv", .unknown, [u, v], [], [], false, none⟩], []⟩ := by
      cbv
    have second {α : Type} [Scalar α] (x y u v : α) :
        ((shape "trianglemesh" : Rule α (List (Param α))).run (Writer.dictionary
          [.define "point2" "uv" [.number x, .number y],
            ⟨"float", "uv", .unknown, [u, v], [], [], false, none⟩])).result =
          .ok [.define "point2" "uv" [.number u, .number v]] := by
      cbv
    rw [show mesh = _ from first 0 0 1 0]
    exact ⟨rfl, rfl, second 0 0 1 0⟩

/-- After a second upgrade that is accepted, the third one has nothing to do. -/
theorem third_upgrade_rests (one : ((1 : α) == 1) = true) (zero : ((0 : α) == 0) = true)
    {s : Subject} (kind : s ∈ [.light, .texture, .shape]) (d again third : Dictionary α)
    {ds es : List (Param α)}
    (finished : ((s.rule name loc).run d).result = .ok ⟨name, ds⟩)
    (reread : again.contents = ((s.rule name loc).run d).state.contents.prepend ds)
    (accepted : ((s.rule name loc).run again).result = .ok ⟨name, es⟩)
    (reread' : third.contents = ((s.rule name loc).run again).state.contents.prepend es) :
    ((s.rule name loc).run third).result = .ok ⟨name, []⟩ ∧
      ((s.rule name loc).run third).state.contents = third.contents := by
  have first := (improved_rule zero kind d rfl _ finished).2
  have second := (improved_rule zero kind again rfl _ accepted).2
  rw [← reread] at first
  rw [← reread'] at second
  exact rests_of_improved one second first.settled third rfl

end SceneScript.Upgrade
