import SceneScript.Proofs.Upgrade.Notices
import SceneScript.Proofs.Upgrade.RevisedRules
import SceneScript.Scalar.Double
import SceneScript.Writer.Basic

/-!
# The colors that a material drops

Which colors the rule for a material drops depends on its name only (`drops`). A dropped color draws a
warning, unless the rgb color that answers is the neutral one (`dropReport`). A texture in place of a
color is dropped with it, and draws no warning of its own.
-/

set_option autoImplicit false

namespace SceneScript

open Dictionary

namespace Contents

variable {α : Type} [Scalar α] {name : String} {c c' : Contents α}

/-- The rgb color of a name has three components equal to a number. -/
def isNeutral (name : String) (x : α) (c : Contents α) : Bool :=
  (c.rgb? name).any fun color => Upgrade.isConstant color x

/-- The warning that a color is dropped, with the text of the last parameter of its name. -/
def dropWarning (loc : Location α) (target name : String) (c : Contents α) : Message α :=
  ⟨.warning, "Parameter is being removed when converting to \"" ++ target ++ "\" material: "
    ++ c.definition name, some loc⟩

/-- The messages about one color that is dropped. -/
def dropReport (loc : Location α) (target name : String) (x : α) (c : Contents α) :
    List (Message α) :=
  if c.isNeutral name x = false ∧ ¬ c.Colorless name then [c.dropWarning loc target name] else []

theorem dropReport_of_neutral {loc : Location α} {target : String} {x : α}
    (neutral : c.isNeutral name x = true) : c.dropReport loc target name x = [] :=
  if_neg fun h => by simp [neutral] at h

theorem SameOn.isNeutral {x : α} (same : SameOn name c c') :
    c'.isNeutral name x = c.isNeutral name x := by
  rw [Contents.isNeutral, Contents.isNeutral, same.rgb?]

theorem SameOn.dropReport {loc : Location α} {target : String} {x : α} (same : SameOn name c c') :
    c'.dropReport loc target name x = c.dropReport loc target name x := by
  refine ite_congr ?_ (fun _ => ?_) fun _ => rfl
  · rw [same.isNeutral, same.colorless_iff]
  · rw [dropWarning, dropWarning, same.definition]

end Contents

namespace Upgrade

open Contents Rule

/-- The color that makes no difference: black, or white where the present material takes all. -/
inductive Neutral where
  | black
  | white
deriving DecidableEq, Repr

/-- The component of a neutral color. -/
def Neutral.value {α : Type} [Scalar α] : Neutral → α
  | black => 0
  | white => 1

/-- The names of the colors that a material drops, in order, with their neutral colors. -/
def drops : String → List (String × Neutral)
  | "uber" => [("Ks", .black), ("Kr", .black), ("Kt", .black)]
  | "substrate" => [("Ks", .white)]
  | "glass" => [("Kr", .white), ("Kt", .white)]
  | "plastic" => [("Ks", .black)]
  | "metal" => [("Kr", .white)]
  | "translucent" => [("reflect", .black), ("transmit", .white), ("Ks", .black)]
  | "mirror" => [("Kr", .black)]
  | _ => []

/-- The names of the colors that some material drops. -/
def droppableNames : List String := ["Ks", "Kr", "Kt", "reflect", "transmit"]

/-- The names of the other parameters that the material itself makes the rule delete or rename. -/
def undroppedNames : List String := ["eta", "roughness", "Kd", "opacity", "amount"]

variable {α : Type} {given given' : List (String × Neutral)} {others others' more : List String}
  {c c' c'' : Contents α}

/-- Of the given names, the colors and the textures are gone, and all else is left. Otherwise only
parameters of other names are deleted or renamed. -/
structure Dropped (given : List (String × Neutral)) (others : List String) (c c' : Contents α) :
    Prop where
  trimmed : Trimmed (given.map (·.1) ++ others) c c'
  colors : ∀ name ∈ given.map (·.1), c'.Colorless name
  textures : ∀ name ∈ given.map (·.1), c'.Lacks "texture" name
  stays : ∀ p ∈ c.params, p.name ∈ given.map (·.1) → isColor p.name p = false →
    hasType "texture" p.name p = false → p ∈ c'.params

namespace Dropped

theorem of_trimmed (trimmed : Trimmed others c c') : Dropped [] others c c' :=
  ⟨trimmed, fun _ => nofun, fun _ => nofun, fun _ _ => nofun⟩

theorem mono (dropped : Dropped given others c c') (sub : others ⊆ more) :
    Dropped given more c c' := by
  refine ⟨dropped.trimmed.mono fun name => ?_, dropped.colors, dropped.textures, dropped.stays⟩
  rw [List.mem_append, List.mem_append]
  exact Or.imp_right fun mem => sub mem

/-- Two rules, one after the other, that drop different names. -/
theorem append (first : Dropped given others c c') (second : Dropped given' others' c' c'')
    (apart : ∀ name ∈ given.map (·.1), name ∉ presentNames ++ (given'.map (·.1) ++ others'))
    (apart' : ∀ name ∈ given'.map (·.1), name ∉ presentNames ++ (given.map (·.1) ++ others)) :
    Dropped (given ++ given') (others ++ others') c c'' := by
  have split {name : String} (mem : name ∈ (given ++ given').map (·.1)) :
      name ∈ given.map (·.1) ∨ name ∈ given'.map (·.1) := by
    rwa [List.map_append, List.mem_append] at mem
  have fresh {name : String} (mem : name ∈ given.map (·.1)) : name ∉ presentNames :=
    fun present => apart name mem (List.mem_append_left _ present)
  -- neither rule touches what the other one drops
  refine ⟨(first.trimmed.andThen second.trimmed).mono ?_, fun name mem => ?_, fun name mem => ?_,
    fun p mem named noColor noTexture => ?_⟩
  · intro name
    simp only [List.map_append, List.mem_append]
    exact or_or_or_comm.1
  · rcases split mem with one | two
    · exact second.trimmed.colorless (fresh one) (first.colors name one)
    · exact second.colors name two
  · rcases split mem with one | two
    · exact second.trimmed.lacks (fresh one) (first.textures name one)
    · exact second.textures name two
  · rcases split named with one | two
    · exact second.trimmed.keeps (first.stays p mem one noColor noTexture)
        fun edited => apart _ one (List.mem_append_right _ edited)
    · exact second.stays p (first.trimmed.keeps mem
        fun edited => apart' _ two (List.mem_append_right _ edited)) two noColor noTexture

/-- What a drop takes away: the colors and the textures of its names. -/
theorem gone_iff {p : Param α} (dropped : Dropped given others c c') (mem : p ∈ c.params)
    (apart : p.name ∉ others) :
    p ∉ c'.params ↔ p.name ∈ given.map (·.1) ∧
      (isColor p.name p = true ∨ hasType "texture" p.name p = true) := by
  constructor
  · intro gone
    have named : p.name ∈ given.map (·.1) := by
      refine Decidable.byContradiction fun other => gone (dropped.trimmed.keeps mem ?_)
      rw [List.mem_append, not_or]
      exact ⟨other, apart⟩
    refine ⟨named, Decidable.byContradiction fun other => gone ?_⟩
    simp only [not_or, Bool.not_eq_true] at other
    exact dropped.stays p mem named other.1 other.2
  · rintro ⟨named, color | texture⟩ left
    · exact absurd color (by simp [dropped.colors _ named p left])
    · exact absurd texture (by simp [find?_eq_none_iff.1 (dropped.textures _ named) p left])

end Dropped

variable [Scalar α] {loc : Location α} {target name : String} {ms ns : List (Message α)}

/-- The messages about the colors that are dropped. -/
def dropReports (loc : Location α) (target : String) (given : List (String × Neutral))
    (c : Contents α) : List (Message α) :=
  given.flatMap fun drop => c.dropReport loc target drop.1 drop.2.value

/-- A trim of other names does not change what is said of the colors. -/
theorem dropReports_congr (trimmed : Trimmed others c c')
    (apart : ∀ name ∈ given.map (·.1), name ∉ presentNames ++ others) :
    dropReports loc target given c' = dropReports loc target given c := by
  rw [dropReports, dropReports, List.flatMap_def, List.flatMap_def]
  refine congrArg List.flatten (List.map_congr_left fun drop mem => ?_)
  exact (trimmed.sameOn (apart _ (List.mem_map_of_mem mem))).dropReport

/-- Colors were dropped, and there were no other messages. -/
structure Told (loc : Location α) (target : String) (given : List (String × Neutral))
    (others : List String) (c c' : Contents α) (ms : List (Message α)) : Prop where
  dropped : Dropped given others c c'
  told : ms = dropReports loc target given c

namespace Told

theorem mono (told : Told loc target given others c c' ms) (sub : others ⊆ more) :
    Told loc target given more c c' ms :=
  ⟨told.dropped.mono sub, told.told⟩

theorem append (first : Told loc target given others c c' ms)
    (second : Told loc target given' others' c' c'' ns)
    (apart : ∀ name ∈ given.map (·.1), name ∉ presentNames ++ (given'.map (·.1) ++ others'))
    (apart' : ∀ name ∈ given'.map (·.1), name ∉ presentNames ++ (given.map (·.1) ++ others)) :
    Told loc target (given ++ given') (others ++ others') c c'' (ms ++ ns) := by
  refine ⟨first.dropped.append second.dropped apart apart', ?_⟩
  -- the second rule says of its colors what it would have said before the first one
  rw [first.told, second.told, dropReports_congr first.dropped.trimmed apart', dropReports,
    dropReports, dropReports, List.flatMap_append]

theorem of_trimmed (trimmed : Trimmed others c c') : Told loc target [] others c c' [] :=
  ⟨.of_trimmed trimmed, rfl⟩

/-- Parameters of other names are deleted or renamed afterwards. -/
theorem trim (told : Told loc target given others c c' ms) (trimmed : Trimmed more c' c'')
    (apart : ∀ name ∈ given.map (·.1), name ∉ presentNames ++ more) :
    Told loc target given (others ++ more) c c'' ms := by
  have both := told.append (.of_trimmed trimmed) apart fun _ => nofun
  rwa [List.append_nil, List.append_nil] at both

/-- Parameters of other names were deleted or renamed before. -/
theorem afterTrim (trimmed : Trimmed more c c') (told : Told loc target given others c' c'' ms)
    (apart : ∀ name ∈ given.map (·.1), name ∉ presentNames ++ more) :
    Told loc target given (more ++ others) c c'' ms :=
  Told.append (.of_trimmed trimmed) told (fun _ => nofun) apart

end Told

/-! ## Parts of rules -/

omit [Scalar α] in
/-- The colors and textures of one name are taken out. -/
theorem dropped_removed {neutral : Neutral} : Dropped [(name, neutral)] [] c
    ((c.removeWhere (isColor name)).removeWhere (hasType "texture" name)) := by
  have names : [(name, neutral)].map (·.1) ++ [] = [name] := rfl
  refine ⟨?_, ?_, ?_, ?_⟩
  · exact names ▸ (Trimmed.removeColor (List.mem_singleton_self name)).trans
      (.remove (List.mem_singleton_self name))
  · simpa using colorless_removeColor.removeWhere
  · simpa using lacks_remove
  · intro p mem named noColor noTexture
    obtain rfl : p.name = name := by simpa using named
    exact mem_params_removeWhere.2 ⟨mem_params_removeWhere.2 ⟨mem, noColor⟩, noTexture⟩

/-- The removal of a color, after the message about it if there was one. -/
theorem tells_removal {neutral : Neutral} (harmless : Bool)
    (told : ms = c.dropReport loc target name neutral.value) : Tells (do
      removeColor name
      remove "texture" name
      return harmless : Rule α Bool) c fun b c' ns =>
        b = harmless ∧ Told loc target [(name, neutral)] [] c c' (ms ++ ns) := by
  have removed : Leaves (do
      removeColor name
      remove "texture" name
      return harmless : Rule α Bool) c fun b c' =>
        b = harmless ∧ Dropped [(name, neutral)] [] c c' :=
    .removeColor_bind (.remove_bind (.pure ⟨rfl, dropped_removed⟩))
  refine (Tells.of_silent removed (.bind .edit fun _ => .bind .edit fun _ => .pure)).mono ?_
  rintro b c' ns ⟨⟨same, dropped⟩, rfl⟩
  refine ⟨same, dropped, ?_⟩
  rw [List.append_nil, told, dropReports, List.flatMap_cons, List.flatMap_nil, List.append_nil]

/-- A color is dropped, and the rule says whether nothing was lost. -/
theorem tells_dropColor (neutral : Neutral) :
    Tells (dropColor loc target name neutral.value) c fun harmless c' ms =>
      harmless = c.isNeutral name neutral.value ∧
        Told loc target [(name, neutral)] [] c c' ms := by
  rw [dropColor]
  apply Tells.ask
  rw [bind_ofNumbers?]
  dsimp only
  have same : ((c.rgb? name).any fun color => isConstant color neutral.value) =
      c.isNeutral name neutral.value := rfl
  rw [same]
  split
  · rename_i harmful
    have lossy : c.isNeutral name neutral.value = false := by simpa using harmful
    apply Tells.hasColor
    split
    · rename_i bound
      have colored : ¬ c.Colorless name := by
        intro colorless
        simp [colorless_iff.1 colorless] at bound
      have told : [c.dropWarning loc target name] = c.dropReport loc target name neutral.value :=
        (if_pos ⟨lossy, colored⟩).symm
      refine .get fun d same => ?_
      rw [Dictionary.definition_eq, same]
      exact .report (tells_removal _ told)
    · rename_i unbound
      have colorless : c.Colorless name := by
        rw [colorless_iff]
        simpa using unbound
      exact tells_removal _ (if_neg fun h => h.2 colorless).symm
  · rename_i harmless
    exact tells_removal _ (dropReport_of_neutral (by simpa using harmless)).symm

theorem tells_lost (neutral : Neutral) :
    Tells (dropColor loc target name neutral.value) c fun _ c' ms =>
      Told loc target [(name, neutral)] [] c c' ms :=
  (tells_dropColor neutral).mono fun _ _ _ dropped => dropped.2

theorem silent_opacity : (opacity loc).Silent := by
  rw [opacity]
  refine .bind .look fun texture => ?_
  split
  · exact .refuse
  · refine .bind .look fun bound => ?_
    split
    · refine .bind .look fun color => ?_
      split
      · exact .edit
      · exact .refuse
    · exact .pure

/-- Without a gloss there is no coat, and no message. -/
theorem tells_coated {coat : List String} (apart : "Ks" ∉ presentNames ++ coat) :
    (coated loc coat).Tells c fun n c' ms => Told loc n [("Ks", .black)] coat c c' ms := by
  rw [coated]
  refine (tells_dropColor .black).bind ?_
  rintro matte c₁ ms ⟨same, gloss⟩
  split
  · rename_i neutral
    -- the rule names the coated target, which only a message would show
    have silent : dropReports loc "diffuse" [("Ks", .black)] c =
        dropReports loc "coateddiffuse" [("Ks", .black)] c := by
      simp only [dropReports, List.flatMap_cons, List.flatMap_nil,
        dropReport_of_neutral (same.symm.trans neutral)]
    have matteGloss : Told loc "diffuse" [("Ks", .black)] [] c c₁ ms :=
      ⟨gloss.dropped, gloss.told.trans silent.symm⟩
    refine .bind_silent (trimmed_forEach "float" (List.Subset.refl coat)) (.forEach fun _ => .edit)
      fun _ c₂ coats => .pure ?_
    rw [List.append_nil]
    exact matteGloss.trim coats (by simpa using apart)
  · refine .pure ?_
    rw [List.append_nil]
    exact gloss.mono (List.nil_subset coat)

/-! ## Materials -/

theorem tells_uber : (uber loc).Tells c fun n c' ms =>
    Told loc n (drops "uber") ["eta", "roughness", "Kd", "opacity"] c c' ms := by
  rw [uber]
  refine (tells_coated (by decide)).bind fun n c₁ ms₁ h₁ => ?_
  refine (tells_lost .black).bind fun _ c₂ ms₂ h₂ => ?_
  refine (tells_lost .black).bind fun _ c₃ ms₃ h₃ => ?_
  refine .bind_silent (trimmed_rename (by decide) (List.mem_singleton_self "Kd")) .edit
    fun _ c₄ h₄ => ?_
  refine .bind_silent (trimmed_opacity loc (List.mem_singleton_self "opacity")) silent_opacity
    fun _ c₅ h₅ => .pure ?_
  have all := (((h₁.append h₂ (by decide) (by decide)).append h₃ (by decide) (by decide)).trim h₄
    (by decide)).trim h₅ (by decide)
  simp only [List.append_assoc, List.append_nil] at all ⊢
  exact all

theorem tells_substrate : (substrate loc).Tells c fun n c' ms =>
    Told loc n (drops "substrate") ["Kd"] c c' ms := by
  rw [substrate]
  refine (tells_lost .white).bind fun _ c₁ ms₁ h₁ => ?_
  refine .bind_silent (trimmed_rename (by decide) (List.mem_singleton_self "Kd")) .edit
    fun _ c₂ h₂ => .pure ?_
  rw [List.append_nil]
  exact h₁.trim h₂ (by decide)

theorem tells_glass : (glass loc).Tells c fun n c' ms =>
    Told loc n (drops "glass") [] c c' ms := by
  rw [glass]
  refine (tells_lost .white).bind fun _ c₁ ms₁ h₁ => ?_
  refine (tells_lost .white).bind fun _ c₂ ms₂ h₂ => .pure ?_
  rw [List.append_nil]
  exact h₁.append h₂ (by decide) (by decide)

theorem tells_plastic : (plastic loc).Tells c fun n c' ms =>
    Told loc n (drops "plastic") ["roughness", "eta", "Kd"] c c' ms := by
  rw [plastic]
  refine (tells_coated (by decide)).bind fun n c₁ ms₁ h₁ => ?_
  refine .bind_silent (trimmed_rename (by decide) (List.mem_singleton_self "Kd")) .edit
    fun _ c₂ h₂ => .pure ?_
  rw [List.append_nil]
  exact h₁.trim h₂ (by decide)

theorem tells_metal : (metal loc).Tells c fun n c' ms =>
    Told loc n (drops "metal") [] c c' ms := by
  rw [metal]
  refine (tells_lost .white).bind fun _ c₁ ms₁ h₁ => .pure ?_
  rw [List.append_nil]
  exact h₁

theorem tells_translucent : (translucent loc).Tells c fun n c' ms =>
    Told loc n (drops "translucent") ["Kd", "roughness"] c c' ms := by
  rw [translucent]
  refine .bind_silent (trimmed_rename (by decide) (List.mem_singleton_self "Kd")) .edit
    fun _ c₁ h₁ => ?_
  refine (tells_lost .black).bind fun _ c₂ ms₂ h₂ => ?_
  refine (tells_lost .white).bind fun _ c₃ ms₃ h₃ => ?_
  refine (tells_lost .black).bind fun _ c₄ ms₄ h₄ => ?_
  refine .bind_silent (trimmed_remove (List.mem_singleton_self "roughness")) .edit
    fun _ c₅ h₅ => .pure ?_
  have colors := (h₂.append h₃ (by decide) (by decide)).append h₄ (by decide) (by decide)
  have all := (Told.afterTrim h₁ colors (by decide)).trim h₅ (by decide)
  simp only [List.append_assoc, List.append_nil] at all ⊢
  exact all

/-- Only a mixture and a material that is given up have messages of another kind. -/
theorem tells_materialBody : (materialBody name loc).Tells c fun u c' ms =>
    Dropped (drops name) undroppedNames c c' ∧
      (name ≠ "mix" → name ≠ "fourier" → ms = dropReports loc u.name (drops name) c) := by
  -- a material that has another name from now on, and no definitions
  have renamed {rule : Rule α String} {given : List (String × Neutral)} {others : List String}
      (sub : others ⊆ undroppedNames)
      (tells : rule.Tells c fun n c' ms => Told loc n given others c c' ms) :
      Tells (do return ⟨← rule, []⟩ : Rule α (Upgraded α)) c fun u c' ms =>
        Dropped given undroppedNames c c' ∧
          (name ≠ "mix" → name ≠ "fourier" → ms = dropReports loc u.name given c) :=
    tells.bind fun n c' ms told => .pure ⟨told.dropped.mono sub, fun _ _ => by
      rw [List.append_nil, told.told]⟩
  have reflectance (present : String) : Tells (do
      rename "Kd" "reflectance"
      return ⟨present, []⟩ : Rule α (Upgraded α)) c fun u c' ms =>
        Dropped [] undroppedNames c c' ∧
          (name ≠ "mix" → name ≠ "fourier" → ms = dropReports loc u.name [] c) :=
    .bind_silent (trimmed_rename (by decide) (by decide)) .edit
      fun _ c' trimmed => .pure ⟨.of_trimmed trimmed, fun _ _ => rfl⟩
  unfold materialBody
  split
  · exact renamed (by decide) tells_uber
  · have amount : Leaves (mixAmount loc) c (Revised undroppedNames c) :=
      revised_mixAmount loc (by decide)
    refine (Tells.of_leaves amount).bind fun _ c' ms revised => .pure ?_
    exact ⟨.of_trimmed revised.trimmed, fun mix => absurd rfl mix⟩
  · exact renamed (by decide) tells_substrate
  · exact renamed (by decide) tells_glass
  · exact renamed (by decide) tells_plastic
  · exact .report (.pure ⟨.of_trimmed .refl, fun _ fourier => absurd rfl fourier⟩)
  · exact reflectance _
  · exact reflectance _
  · exact renamed (by decide) tells_metal
  · exact renamed (by decide) tells_translucent
  · refine (tells_lost .black).bind fun _ c' ms told => .pure ?_
    refine ⟨told.dropped.mono (by decide), fun _ _ => ?_⟩
    rw [List.append_nil]
    exact told.told
  · have none : drops name = [] := by
      unfold drops
      split <;> first | rfl | contradiction
    rw [none]
    exact .pure ⟨.of_trimmed .refl, fun _ _ => rfl⟩

theorem mem_droppableNames {dropped : String} (mem : dropped ∈ (drops name).map (·.1)) :
    dropped ∈ droppableNames := by
  revert dropped
  unfold drops
  split <;> decide

theorem silent_refraction : (refraction name loc).Silent := by
  rw [refraction]
  split
  · exact .pure
  · refine .bind .look fun texture => ?_
    split
    · refine .bind .look fun eta => ?_
      split
      · exact .refuse
      · exact .bind .edit fun _ => .pure
    · refine .bind .look fun index => ?_
      split
      · exact .pure
      · refine .bind .look fun eta => ?_
        split
        · exact .refuse
        · exact .bind .edit fun _ => .pure
      · exact .refuse

theorem silent_bumpMap : (bumpMap : Rule α (List (Param α))).Silent := by
  rw [bumpMap]
  refine .bind .look fun texture => ?_
  split
  · exact .pure
  · exact .bind .edit fun _ => .pure

theorem tells_material : (material name loc).Tells c fun u c' ms =>
    Dropped (drops name) (["index", "bumpmap"] ++ undroppedNames) c c' ∧
      (name ≠ "mix" → name ≠ "fourier" → ms = dropReports loc u.name (drops name) c) := by
  have apart : ∀ dropped ∈ (drops name).map (·.1),
      dropped ∉ presentNames ++ ["index", "bumpmap"] := by
    intro dropped mem
    have all : ∀ dropped ∈ droppableNames, dropped ∉ presentNames ++ ["index", "bumpmap"] := by decide
    exact all dropped (mem_droppableNames mem)
  have eta (c₀ : Contents α) :
      Leaves (refraction name loc) c₀ (Revised ["index", "bumpmap"] c₀) :=
    revised_refraction name loc (by decide)
  have bump (c₀ : Contents α) : Leaves bumpMap c₀ (Revised ["index", "bumpmap"] c₀) :=
    revised_bumpMap (by decide)
  rw [material]
  refine .bind_silent (eta c) silent_refraction fun _ c₁ h₁ => ?_
  refine .bind_silent (bump c₁) silent_bumpMap fun _ c₂ h₂ => ?_
  have before : Trimmed ["index", "bumpmap"] c c₂ := h₁.trimmed.trans h₂.trimmed
  refine tells_materialBody.bind ?_
  rintro body c₃ ms ⟨dropped, told⟩
  refine .pure ⟨?_, fun mix fourier => ?_⟩
  · exact (Dropped.of_trimmed before).append dropped (by simp) apart
  · rw [List.append_nil, told mix fourier, dropReports_congr before apart]

/-- A material that is accepted loses, of the parameters with the names of droppable colors, exactly
the colors and the textures under the names that it drops. Each color that it loses draws a warning
with its new name and the last parameter of that name, unless the rgb color that answers is the
neutral one. There are no other messages, except about a mixture or a material that is given up. -/
theorem dropped_colors_draw_warnings (name : String) (loc : Location α) (d : Dictionary α)
    {u : Upgraded α} (finished : ((material name loc).run d).result = .ok u) :
    let c := d.contents
    let after := (material name loc).run d
    (∀ p ∈ c.params, p.name ∈ droppableNames →
      (p ∉ after.state.contents.params ↔ p.name ∈ (drops name).map (·.1) ∧
        (isColor p.name p = true ∨ hasType "texture" p.name p = true))) ∧
    (∀ p ∈ c.params, isColor p.name p = true → ∀ neutral, (p.name, neutral) ∈ drops name →
      c.isNeutral p.name neutral.value = false →
      c.dropWarning loc u.name p.name ∈ after.notices) ∧
    (name ≠ "mix" → name ≠ "fourier" → after.notices = dropReports loc u.name (drops name) c) := by
  intro c after
  obtain ⟨dropped, told⟩ : Dropped _ _ c after.state.contents ∧ _ :=
    tells_material d rfl u finished
  refine ⟨fun p mem droppable => dropped.gone_iff mem ?_, ?_, told⟩
  · have all : ∀ n ∈ droppableNames, n ∉ ["index", "bumpmap"] ++ undroppedNames := by decide
    exact all _ droppable
  · intro p mem color neutral drop lossy
    have mix : name ≠ "mix" := by
      rintro rfl
      exact nomatch drop
    have fourier : name ≠ "fourier" := by
      rintro rfl
      exact nomatch drop
    have colored : ¬ c.Colorless p.name := fun colorless => by simp [colorless p mem] at color
    rw [told mix fourier]
    refine List.mem_flatMap.2 ⟨_, drop, ?_⟩
    rw [dropReport, if_pos ⟨lossy, colored⟩]
    exact List.mem_singleton_self _

/-- Control: plastic loses the temperature of its gloss with a warning. -/
theorem dropped_colors_draw_warnings_plastic :
    let glossy {α : Type} [Scalar α] (t : α) : Dictionary α := Writer.dictionary
      [⟨"blackbody", "Ks", .unknown, [t], [], [], false, none⟩]
    let after := (material "plastic" .unknown).run (glossy (5500 : Float))
    after.result = .ok ⟨"coateddiffuse", []⟩ ∧
      (glossy (5500 : Float)).contents.dropWarning .unknown "coateddiffuse" "Ks" ∈
        after.notices := by
  intro glossy after
  -- nothing depends on the temperature
  have warns {α : Type} [Scalar α] (t : α) :
      ((material "plastic" .unknown).run (glossy t)).result = .ok ⟨"coateddiffuse", []⟩ ∧
        (glossy t).contents.dropWarning .unknown "coateddiffuse" "Ks" ∈
          ((material "plastic" .unknown).run (glossy t)).notices := by
    have finished : ((material "plastic" .unknown).run (glossy t)).result =
        .ok ⟨"coateddiffuse", []⟩ := rfl
    have bound : ⟨"blackbody", "Ks", .unknown, [t], [], [], false, none⟩ ∈
        (glossy t).contents.params := List.mem_singleton_self _
    have drop : ("Ks", Neutral.black) ∈ drops "plastic" := by decide
    have warned := (dropped_colors_draw_warnings "plastic" .unknown _ finished).2.1 _ bound rfl
    exact ⟨finished, warned .black drop rfl⟩
  exact warns 5500

/-- A texture in place of the gloss of plastic is lost without a word. -/
theorem dropped_textures_draw_no_warnings :
    let textured : Dictionary Float := Writer.dictionary
      [⟨"texture", "Ks", .unknown, [], ["spec"], [], false, none⟩]
    let after := (material "plastic" .unknown).run textured
    after.result = .ok ⟨"coateddiffuse", []⟩ ∧ after.state.contents.params = [] ∧
      after.notices = [] :=
  ⟨rfl, rfl, rfl⟩

end Upgrade

end SceneScript
