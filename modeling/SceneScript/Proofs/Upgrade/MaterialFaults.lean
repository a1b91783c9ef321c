import SceneScript.Proofs.Upgrade.DroppedColors
import SceneScript.Proofs.Upgrade.Yields

/-!
# Which materials are refused

A material is refused for its index of refraction, or an uber material for its opacity; nothing else in
the rule for materials can fail. The parameters tell beforehand for which reason a material is refused,
if it is (`Contents.materialFault?`).

An index is a texture or a single number, and the texture counts if there are both
(`Contents.index?`). Beside it there must be no "eta" of the same type (`Contents.HasEta`).
-/

set_option autoImplicit false

namespace SceneScript

open Dictionary

/-- An index of refraction: the name of a texture, or a number. -/
inductive RefractiveIndex (α : Type) where
  | texture (name : String)
  | number (x : α)

namespace RefractiveIndex

variable {α : Type}

/-- The type of the parameter that gives an index. -/
def type : RefractiveIndex α → String
  | texture _ => "texture"
  | number _ => "float"

/-- The index under its present name. -/
def definition [Scalar α] : RefractiveIndex α → Param α
  | texture name => .define "texture" "eta" [.string name]
  | number x => Rule.floatDefinition "eta" x

end RefractiveIndex

/-- The materials that have an index of refraction. -/
def Upgrade.Refracts (name : String) : Prop := name = "glass" ∨ name = "uber"

instance (name : String) : Decidable (Upgrade.Refracts name) :=
  inferInstanceAs (Decidable (name = "glass" ∨ name = "uber"))

theorem Upgrade.refracts_iff {name : String} :
    Refracts name ↔ ¬ (name ≠ "glass" ∧ name ≠ "uber") := by
  simp only [Refracts, ne_eq, Decidable.not_and_iff_not_or_not, Decidable.not_not]

namespace Contents

variable {α : Type}

/-- The index of refraction that counts for a material: a texture, or else a single number. -/
def index? (name : String) (c : Contents α) : Option (RefractiveIndex α) :=
  if Upgrade.Refracts name then
    if c.word "texture" "index" ≠ "" then some (.texture (c.word "texture" "index"))
    else
      match c.numbersOf "float" "index" with
      | [x] => some (.number x)
      | _ => none
  else none

/-- The index of a material is a list of several numbers. -/
def ManyIndices (name : String) (c : Contents α) : Prop :=
  Upgrade.Refracts name ∧ c.word "texture" "index" = "" ∧
    2 ≤ (c.numbersOf "float" "index").length

/-- There is an "eta" of the same type as the index. -/
def HasEta (c : Contents α) : RefractiveIndex α → Prop
  | .texture _ => c.word "texture" "eta" ≠ ""
  | .number _ => c.numbersOf "float" "eta" ≠ []

instance (name : String) (c : Contents α) : Decidable (c.ManyIndices name) :=
  inferInstanceAs (Decidable (_ ∧ _ ∧ _))

instance (c : Contents α) : (i : RefractiveIndex α) → Decidable (c.HasEta i)
  | .texture _ => inferInstanceAs (Decidable (_ ≠ _))
  | .number _ => inferInstanceAs (Decidable (¬ c.numbersOf "float" "eta" = []))

/-- The index under its present name, if there is one. -/
def etaDefinitions [Scalar α] (name : String) (c : Contents α) : List (Param α) :=
  ((c.index? name).map RefractiveIndex.definition).toList

/-- The contents without the parameters of the index that counts. -/
def withoutIndex (name : String) (c : Contents α) : Contents α :=
  match c.index? name with
  | some i => c.removeWhere (hasType i.type "index")
  | none => c

/-- Why a material is refused for its index, if it is. -/
def refractionFault? (name : String) (c : Contents α) : Option UpgradeFault :=
  if c.ManyIndices name then some .severalIndices
  else (c.index? name).bind fun i => if c.HasEta i then some (.indexAndEta name) else none

/-- Why an uber material is refused for its opacity, if it is. -/
def opacityFault? [Scalar α] (c : Contents α) : Option UpgradeFault :=
  if c.word "texture" "opacity" ≠ "" then some .texturedOpacity
  else if c.Colorless "opacity" ∨ c.isNeutral "opacity" 1 = true then none
  else some .coloredOpacity

/-- Why a material with these contents is refused, if it is. -/
def materialFault? [Scalar α] (name : String) (c : Contents α) : Option UpgradeFault :=
  (c.refractionFault? name).or (if name = "uber" then c.opacityFault? else none)

variable {name : String} {c c' : Contents α}

theorem SameOn.opacityFault? [Scalar α] (same : SameOn "opacity" c c') :
    c'.opacityFault? = c.opacityFault? := by
  rw [Contents.opacityFault?, Contents.opacityFault?, same.word, same.isNeutral]
  simp only [same.colorless_iff]

theorem trimmed_withoutIndex : Trimmed ["index"] c (c.withoutIndex name) := by
  rw [withoutIndex]
  split
  · exact .remove (List.mem_singleton_self "index")
  · exact .refl

theorem index?_of_texture (refracts : Upgrade.Refracts name)
    (textured : c.word "texture" "index" ≠ "") :
    c.index? name = some (.texture (c.word "texture" "index")) := by
  rw [index?, if_pos refracts, if_pos textured]

theorem index?_of_numbers (refracts : Upgrade.Refracts name)
    (textless : c.word "texture" "index" = "") :
    c.index? name = match c.numbersOf "float" "index" with
      | [x] => some (.number x)
      | _ => none := by
  rw [index?, if_pos refracts, if_neg (Decidable.not_not.2 textless)]

/-- Several numbers are no index. -/
theorem index?_of_many (many : c.ManyIndices name) : c.index? name = none := by
  obtain ⟨refracts, textless, several⟩ := many
  rw [index?_of_numbers refracts textless]
  split
  · rename_i x single
    simp [single] at several
  · rfl

theorem refractionFault?_of_index {i : RefractiveIndex α} (given : c.index? name = some i) :
    c.refractionFault? name = if c.HasEta i then some (.indexAndEta name) else none := by
  have single : ¬ c.ManyIndices name := fun many => nomatch (index?_of_many many).symm.trans given
  rw [refractionFault?, if_neg single, given, Option.bind_some]

/-- A material is refused for an index beside an "eta" exactly if the index that counts has an "eta" of
its own type beside it. -/
theorem refractionFault?_eq_indexAndEta_iff :
    c.refractionFault? name = some (.indexAndEta name) ↔ ∃ i, c.index? name = some i ∧ c.HasEta i := by
  rw [refractionFault?]
  split
  · rename_i many
    refine iff_of_false (by simp) ?_
    rintro ⟨i, given, -⟩
    exact nomatch (index?_of_many many).symm.trans given
  · simp only [Option.bind_eq_some_iff, Option.ite_none_right_eq_some, and_true]

theorem refractionFault?_eq_severalIndices_iff :
    c.refractionFault? name = some .severalIndices ↔ c.ManyIndices name := by
  rw [refractionFault?]
  split
  · rename_i many
    exact iff_of_true rfl many
  · rename_i single
    refine iff_of_false (fun foreseen => ?_) single
    obtain ⟨i, -, other⟩ := Option.bind_eq_some_iff.1 foreseen
    -- an "eta" beside the index is another reason
    split at other <;> simp at other

theorem refractionFault?_eq_none_iff : c.refractionFault? name = none ↔
    (∀ i, c.index? name = some i → ¬ c.HasEta i) ∧ ¬ c.ManyIndices name := by
  rw [refractionFault?]
  split
  · rename_i many
    exact iff_of_false nofun fun h => h.2 many
  · rename_i single
    rw [and_iff_left single, Option.bind_eq_none_iff]
    simp

theorem opacityFault?_mem [Scalar α] {fault : UpgradeFault} (foreseen : c.opacityFault? = some fault) :
    fault = .texturedOpacity ∨ fault = .coloredOpacity := by
  rw [opacityFault?] at foreseen
  split at foreseen
  · exact Or.inl (Option.some.inj foreseen).symm
  · split at foreseen
    · exact absurd foreseen.symm (Option.some_ne_none fault)
    · exact Or.inr (Option.some.inj foreseen).symm

/-- Only the opacity of a material makes for other refusals than its index does. -/
theorem materialFault?_eq_iff [Scalar α] (fault : UpgradeFault) (textured : fault ≠ .texturedOpacity)
    (colored : fault ≠ .coloredOpacity) :
    c.materialFault? name = some fault ↔ c.refractionFault? name = some fault := by
  rw [materialFault?, Option.or_eq_some_iff]
  refine or_iff_left ?_
  rintro ⟨-, foreseen⟩
  split at foreseen
  · exact (opacityFault?_mem foreseen).elim textured colored
  · exact absurd foreseen.symm (Option.some_ne_none fault)

theorem materialFault?_eq_none_iff [Scalar α] :
    c.materialFault? name = none ↔ (∀ i, c.index? name = some i → ¬ c.HasEta i) ∧
      ¬ c.ManyIndices name ∧ (name = "uber" → c.opacityFault? = none) := by
  rw [materialFault?, Option.or_eq_none_iff, refractionFault?_eq_none_iff, and_assoc]
  simp

/-- Materials without an index of refraction are not refused. -/
theorem materialFault?_of_not_refracts [Scalar α] (other : ¬ Upgrade.Refracts name) :
    c.materialFault? name = none := by
  have none : c.index? name = none := if_neg other
  rw [materialFault?_eq_none_iff, none]
  exact ⟨nofun, fun many => other many.1, fun uber => absurd (Or.inr uber) other⟩

end Contents

namespace Upgrade

open Contents Rule

variable {α : Type} [Scalar α] {name : String} {loc : Location α} {c : Contents α}

/-! ## The index of refraction -/

/-- What is done with the index that counts, once it is found. -/
theorem resolves_index {i : RefractiveIndex α} (given : c.index? name = some i) {p : Prop}
    [Decidable p] (eta : p ↔ c.HasEta i) : Resolves (do
      if p then refuse loc (.indexAndEta name)
      else
        remove i.type "index"
        return [i.definition] : Rule α (List (Param α)))
      c (c.refractionFault? name) (c.etaDefinitions name) (c.withoutIndex name) := by
  rw [refractionFault?_of_index given, etaDefinitions, withoutIndex, given]
  by_cases has : c.HasEta i
  · rw [if_pos (eta.2 has), if_pos has]
    exact .of_refuses fun _ _ => ⟨loc, rfl⟩
  · rw [if_neg (mt eta.1 has), if_neg has]
    exact .of_yields (.bind .remove .pure)

/-- Without an index there is nothing to do. -/
theorem resolves_nothing (none : c.index? name = none) (few : ¬ c.ManyIndices name) :
    Resolves (pure [] : Rule α (List (Param α))) c (c.refractionFault? name)
      (c.etaDefinitions name) (c.withoutIndex name) := by
  rw [refractionFault?, if_neg few, etaDefinitions, withoutIndex, none]
  exact .of_yields .pure

/-- The rule for the index is refused for the reason that is foreseen, or it puts the index that counts
under its present name. -/
theorem resolves_refraction : (refraction name loc).Resolves c (c.refractionFault? name)
    (c.etaDefinitions name) (c.withoutIndex name) := by
  rw [refraction]
  by_cases refracts : Refracts name
  · rw [if_neg (refracts_iff.1 refracts)]
    refine .after (.ask rfl) ?_
    change Resolves (if c.word "texture" "index" ≠ "" then _ else _) c _ _ _
    split
    · rename_i textured
      exact .after (.ask rfl) (resolves_index (index?_of_texture refracts textured) Iff.rfl)
    · rename_i plain
      have textless : c.word "texture" "index" = "" := Decidable.not_not.1 plain
      have given := index?_of_numbers refracts textless
      rcases numbers : c.numbersOf "float" "index" with _ | ⟨x, _ | ⟨y, rest⟩⟩
      · rw [numbers] at given
        refine .after (.ask numbers) (resolves_nothing given fun many => ?_)
        simp [ManyIndices, numbers] at many
      · rw [numbers] at given
        refine .after (.ask numbers) (.after (.ask rfl) (resolves_index given ?_))
        change (!(c.numbersOf "float" "eta").isEmpty) = true ↔ c.numbersOf "float" "eta" ≠ []
        simp
      · have many : c.ManyIndices name := ⟨refracts, textless, by simp [numbers]⟩
        rw [refractionFault?, if_pos many]
        exact .after (.ask numbers) (.of_refuses fun _ _ => ⟨loc, rfl⟩)
  · rw [if_pos (Decidable.not_not.1 (mt refracts_iff.2 refracts))]
    exact resolves_nothing (if_neg refracts) fun many => refracts many.1

/-! ## Parts that cannot fail -/

theorem finishes_bumpMap : (bumpMap : Rule α (List (Param α))).Finishes := by
  rw [bumpMap]
  refine .bind .look fun bump => ?_
  split
  · exact .pure
  · exact .bind .edit fun _ => .pure

theorem finishes_dropColor {target : String} {neutral : α} :
    (dropColor loc target name neutral).Finishes := by
  rw [dropColor]
  have removed (harmless : Bool) : Finishes (do
      removeColor name
      remove "texture" name
      return harmless : Rule α Bool) :=
    .bind .edit fun _ => .bind .edit fun _ => .pure
  refine .bind .look fun color => ?_
  dsimp only
  split
  · refine .bind .look fun bound => ?_
    split
    · exact .get_bind fun d => .bind .report fun _ => removed _
    · exact removed _
  · exact removed _

theorem finishes_coated {coat : List String} : (coated loc coat).Finishes := by
  rw [coated]
  refine .bind finishes_dropColor fun matte => ?_
  split
  · exact .bind (.forEach fun _ => .edit) fun _ => .pure
  · exact .pure

theorem finishes_mixAmount : (mixAmount loc).Finishes := by
  rw [mixAmount]
  have removed (ds : List (Param α)) : Finishes (do
      removeColor "amount"
      return ds : Rule α (List (Param α))) :=
    .bind .edit fun _ => .pure
  refine .bind .look fun color => ?_
  dsimp only
  split
  · split
    · exact .bind .pure removed
    · exact .bind .report fun _ => .bind .pure removed
  · -- a color that is no rgb color, or a texture, draws a message
    have reported (unusable : Bool) : Finishes (do
        if unusable then
          let d ← Action.get
          report .error loc
            ("Unable to update non-RGB spectrum \"amount\" to a scalar: " ++ d.definition "amount")
        let definitions ← pure []
        removeColor "amount"
        return definitions : Rule α (List (Param α))) := by
      dsimp only
      split
      · exact .get_bind fun d => .bind .report fun _ => .bind .pure removed
      · exact .bind .pure removed
    refine .bind .look fun bound => ?_
    split
    · exact .bind .pure reported
    · exact .bind .look fun texture => .bind .pure reported

theorem finishes_substrate : (substrate loc).Finishes := by
  rw [substrate]
  exact .bind finishes_dropColor fun _ => .bind .edit fun _ => .pure

theorem finishes_glass : (glass loc).Finishes := by
  rw [glass]
  exact .bind finishes_dropColor fun _ => .bind finishes_dropColor fun _ => .pure

theorem finishes_plastic : (plastic loc).Finishes := by
  rw [plastic]
  exact .bind finishes_coated fun _ => .bind .edit fun _ => .pure

theorem finishes_metal : (metal loc).Finishes := by
  rw [metal]
  exact .bind finishes_dropColor fun _ => .pure

theorem finishes_translucent : (translucent loc).Finishes := by
  rw [translucent]
  refine .bind .edit fun _ => .bind finishes_dropColor fun _ => ?_
  refine .bind finishes_dropColor fun _ => .bind finishes_dropColor fun _ => ?_
  exact .bind .edit fun _ => .pure

/-! ## Refusals -/

theorem faults_opacity : (opacity loc).Faults c c.opacityFault? := by
  rw [opacity, opacityFault?]
  refine .after_yields (.ask rfl) ?_
  change Faults (if c.word "texture" "opacity" ≠ "" then _ else _) c _
  split
  · exact .of_refuses fun _ _ => ⟨loc, rfl⟩
  · refine .after_yields (.hasColor rfl) ?_
    by_cases colorless : c.Colorless "opacity"
    · rw [colorless_iff.1 colorless, if_pos (Or.inl colorless)]
      exact .of_finishes .pure
    · have bound : (c.find? (isColor "opacity")).isSome = true := by
        rw [Option.isSome_iff_ne_none]
        exact mt colorless_iff.2 colorless
      rw [if_pos bound]
      refine .after_yields (.ask bind_ofNumbers?) ?_
      change Faults (if c.isNeutral "opacity" 1 = true then _ else _) c _
      by_cases solid : c.isNeutral "opacity" 1 = true
      · rw [if_pos solid, if_pos (Or.inr solid)]
        exact .of_finishes .edit
      · rw [if_neg solid, if_neg (not_or.2 ⟨colorless, solid⟩)]
        exact .of_refuses fun _ _ => ⟨loc, rfl⟩

/-- The opacity is what it was, whatever else is done to an uber material. -/
theorem faults_uber : (uber loc).Faults c c.opacityFault? := by
  rw [uber]
  refine .after finishes_coated (trimmed_coated loc (List.Subset.refl _)) fun n c₁ h₁ => ?_
  refine .after finishes_dropColor (trimmed_dropColor loc _ 0 (List.mem_singleton_self "Kr"))
    fun _ c₂ h₂ => ?_
  refine .after finishes_dropColor (trimmed_dropColor loc _ 0 (List.mem_singleton_self "Kt"))
    fun _ c₃ h₃ => ?_
  refine .after .edit (trimmed_rename (by decide) (List.mem_singleton_self "Kd")) fun _ c₄ h₄ => ?_
  have same : SameOn "opacity" c c₄ :=
    (((h₁.sameOn (by decide)).trans (h₂.sameOn (by decide))).trans (h₃.sameOn (by decide))).trans
      (h₄.sameOn (by decide))
  rw [← same.opacityFault?]
  exact faults_opacity.andThen fun _ => .pure

theorem faults_materialBody :
    (materialBody name loc).Faults c (if name = "uber" then c.opacityFault? else none) := by
  have renamed {rule : Rule α String} (finishes : rule.Finishes) :
      Finishes (do return ⟨← rule, []⟩ : Rule α (Upgraded α)) :=
    finishes.bind fun _ => .pure
  have reflectance (present : String) : Finishes (do
      rename "Kd" "reflectance"
      return ⟨present, []⟩ : Rule α (Upgraded α)) :=
    .bind .edit fun _ => .pure
  unfold materialBody
  split
  · exact faults_uber.andThen fun _ => .pure
  · exact .of_finishes (finishes_mixAmount.bind fun _ => .pure)
  · exact .of_finishes (renamed finishes_substrate)
  · exact .of_finishes (renamed finishes_glass)
  · exact .of_finishes (renamed finishes_plastic)
  · exact .of_finishes (.bind .report fun _ => .pure)
  · exact .of_finishes (reflectance _)
  · exact .of_finishes (reflectance _)
  · exact .of_finishes (renamed finishes_metal)
  · exact .of_finishes (renamed finishes_translucent)
  · exact .of_finishes (finishes_dropColor.bind fun _ => .pure)
  · rename_i other _ _ _ _ _ _ _ _ _ _
    rw [if_neg other]
    exact .of_finishes .pure

/-- A material is refused exactly if a refusal is foreseen, and for the foreseen reason. -/
theorem faults_material : (material name loc).Faults c (c.materialFault? name) := by
  rw [material, materialFault?]
  refine resolves_refraction.bind_faults ?_
  refine .after finishes_bumpMap (revised_bumpMap (List.mem_singleton_self "bumpmap"))
    fun bump c₁ revised => ?_
  have same : SameOn "opacity" c c₁ :=
    (trimmed_withoutIndex.sameOn (by decide)).trans (revised.trimmed.sameOn (by decide))
  rw [← same.opacityFault?]
  exact faults_materialBody.andThen fun _ => .pure

end Upgrade

end SceneScript
