import SceneScript.Proofs.Upgrade.Notices
import SceneScript.Proofs.Upgrade.RevisedRules

/-!
# Parameters that a rule does not see

A rule is blind to parameters that it neither asks for nor edits (`Rule.Blind`): from two
dictionaries that are the same but for such parameters it comes to the same result and the same
messages, and what it leaves is the same again but for them. There is a lemma for each way of making
rules, and one for each part of the rule for materials, which is blind to all parameters with other
names than `materialNames` (`blind_material`). So it makes no difference where in the list such a
parameter stands, or whether it stands there at all.
-/

set_option autoImplicit false

namespace SceneScript

namespace Contents

variable {α : Type} {hidden dropped wanted : Param α → Bool} {c c' : Contents α}

/-- The contents are the same but for parameters that `hidden` accepts. -/
def SameBut (hidden : Param α → Bool) (c c' : Contents α) : Prop :=
  c.removeWhere hidden = c'.removeWhere hidden

theorem removeWhere_comm :
    (c.removeWhere dropped).removeWhere hidden = (c.removeWhere hidden).removeWhere dropped := by
  simp only [removeWhere, List.filter_filter, Bool.and_comm]

/-- Renaming does not touch parameters with other names. -/
theorem removeWhere_rename {before after : String}
    (apart : ∀ p, hidden p = true → p.name ≠ before ∧ p.name ≠ after) :
    (c.rename before after).removeWhere hidden = (c.removeWhere hidden).rename before after := by
  have seen (p : Param α) : hidden (p.renamed before after) = hidden p := by
    rw [Param.renamed]
    split
    · -- neither the old nor the new name is hidden
      rename_i old
      have unhidden : hidden p = false :=
        Bool.eq_false_iff.2 fun h => (apart p h).1 (beq_iff_eq.1 old)
      rw [unhidden]
      exact Bool.eq_false_iff.2 fun h => (apart _ h).2 rfl
    · rfl
  simp only [removeWhere, rename, List.filter_map, Function.comp_def, seen]

namespace SameBut

variable (same : SameBut hidden c c')

include same

theorem find? (seen : ∀ p, wanted p = true → hidden p = false) :
    c.find? wanted = c'.find? wanted := by
  rw [← find?_removeWhere_of_disjoint seen, same, find?_removeWhere_of_disjoint seen]

theorem removeWhere : SameBut hidden (c.removeWhere dropped) (c'.removeWhere dropped) := by
  rw [SameBut, removeWhere_comm, same, removeWhere_comm]

theorem rename {before after : String}
    (apart : ∀ p, hidden p = true → p.name ≠ before ∧ p.name ≠ after) :
    SameBut hidden (c.rename before after) (c'.rename before after) := by
  rw [SameBut, removeWhere_rename apart, same, removeWhere_rename apart]

theorem definition [Scalar α] {name : String} (seen : ∀ p, p.name = name → hidden p = false) :
    c.definition name = c'.definition name := by
  rw [Contents.definition, Contents.definition, same.find? fun p named => seen p (beq_iff_eq.1 named)]

end SameBut

end Contents

/-! ## Blind rules -/

namespace Rule

open Contents

variable {α β γ : Type} {hidden : Param α → Bool} {names : List String} {name : String}

/-- No parameter with one of the names is hidden. -/
def Sees (names : List String) (hidden : Param α → Bool) : Prop :=
  ∀ p, p.name ∈ names → hidden p = false

/-- From contents that are the same but for hidden parameters, the rule comes to the same result and
the same messages, and leaves contents that are the same but for hidden parameters. -/
def Blind (hidden : Param α → Bool) (rule : Rule α β) : Prop :=
  ∀ d d' : Dictionary α, SameBut hidden d.contents d'.contents →
    (rule.run d).result = (rule.run d').result ∧
    (rule.run d).notices = (rule.run d').notices ∧
    SameBut hidden (rule.run d).state.contents (rule.run d').state.contents

namespace Blind

variable {rule : Rule α β} {next : β → Rule α γ}

theorem pure (b : β) : Blind hidden (Pure.pure b : Rule α β) :=
  fun _ _ same => ⟨rfl, rfl, same⟩

theorem refuse (place : Location α) (fault : UpgradeFault) :
    Blind hidden (Rule.refuse place fault : Rule α β) :=
  fun _ _ same => ⟨rfl, rfl, same⟩

theorem report (severity : Severity) (place : Location α) (text : String) :
    Blind hidden (Rule.report severity place text) :=
  fun _ _ same => ⟨rfl, rfl, same⟩

theorem bind (first : rule.Blind hidden) (second : ∀ b, (next b).Blind hidden) :
    Blind hidden (rule >>= next) := by
  intro d d' same
  obtain ⟨result, notices, left⟩ := first d d' same
  rw [Action.run_bind, Action.run_bind]
  generalize rule.run d = o at result notices left ⊢
  generalize rule.run d' = o' at result notices left ⊢
  obtain ⟨r, s, ns⟩ := o
  obtain ⟨r', s', ns'⟩ := o'
  obtain rfl : r = r' := result
  obtain rfl : ns = ns' := notices
  cases r with
  | error e => exact ⟨rfl, rfl, left⟩
  | ok b =>
    obtain ⟨result, notices, left⟩ := second b s s' left
    exact ⟨result, congrArg (ns ++ ·) notices, left⟩

/-- What is done after a look at the whole dictionary may depend on what is not hidden. -/
theorem get_bind {next : Dictionary α → Rule α γ}
    (same : ∀ d d' : Dictionary α, SameBut hidden d.contents d'.contents → next d = next d')
    (rest : ∀ d, (next d).Blind hidden) : Blind hidden (Action.get >>= next) := by
  intro d d' alike
  rw [Action.run_get_bind, Action.run_get_bind, same d d' alike]
  exact rest d' d d' alike

theorem forEach {ι : Type} {act : ι → Rule α Unit} (each : ∀ i, (act i).Blind hidden)
    (items : List ι) : Blind hidden (Action.forEach act items) := by
  induction items with
  | nil => exact pure ()
  | cons i rest ih => exact (each i).bind fun _ => ih

variable (sees : Sees names hidden) (mem : name ∈ names)

include sees mem

/-- A question about one typed parameter. -/
theorem ask (type : String) (read : Option (Param α) → β) :
    Blind hidden (look (Dictionary.ask type name read)) := by
  intro d d' same
  have answer : (Dictionary.ask type name read d).1 = (Dictionary.ask type name read d').1 := by
    rw [Dictionary.fst_ask, Dictionary.fst_ask,
      same.find? fun p has => sees p (Dictionary.name_of_hasType has ▸ mem)]
  refine ⟨congrArg Except.ok answer, rfl, ?_⟩
  simpa [look] using same

/-- The question whether a name is bound to a color. -/
theorem hasColor : Blind hidden (look (Dictionary.hasColor name)) := by
  intro d d' same
  have answer : (Dictionary.hasColor name d).1 = (Dictionary.hasColor name d').1 := by
    change (d.lookup _).1.isSome = (d'.lookup _).1.isSome
    rw [Dictionary.fst_lookup, Dictionary.fst_lookup,
      same.find? fun p color => sees p (Dictionary.name_of_isColor color ▸ mem)]
  refine ⟨congrArg Except.ok answer, rfl, ?_⟩
  simpa [look, Dictionary.hasColor] using same

omit sees mem in
/-- A removal keeps the same parameters of those that are not hidden. -/
theorem remove (type name : String) : Blind hidden (Rule.remove type name) := by
  intro d d' same
  refine ⟨rfl, rfl, ?_⟩
  simpa [Rule.remove, edit, Dictionary.remove] using same.removeWhere

omit sees mem in
theorem removeColor (name : String) : Blind hidden (Rule.removeColor name) := by
  intro d d' same
  refine ⟨rfl, rfl, ?_⟩
  simpa [Rule.removeColor, edit, Dictionary.removeColor] using same.removeWhere

theorem rename {after : String} (present : after ∈ names) :
    Blind hidden (Rule.rename name after) := by
  intro d d' same
  have apart (p : Param α) (h : hidden p = true) : p.name ≠ name ∧ p.name ≠ after := by
    refine ⟨fun named => ?_, fun named => ?_⟩
    · exact Bool.eq_false_iff.1 (sees p (named ▸ mem)) h
    · exact Bool.eq_false_iff.1 (sees p (named ▸ present)) h
  refine ⟨rfl, rfl, ?_⟩
  simpa [Rule.rename, edit] using same.rename apart

/-- A message that shows the last parameter of a name, and what comes after it. -/
theorem report_definition [Scalar α] (severity : Severity) (place : Location α) (text : String)
    {next : Unit → Rule α γ} (rest : (next ()).Blind hidden) :
    Blind hidden (do
      let d ← Action.get
      Rule.report severity place (text ++ d.definition name) >>= next) := by
  refine get_bind (fun d d' same => ?_) fun d => (report severity place _).bind fun _ => rest
  rw [Dictionary.definition_eq, Dictionary.definition_eq,
    same.definition fun p named => sees p (named ▸ mem)]

end Blind

end Rule

namespace Upgrade

open Rule

/-- The names that the rule for materials asks for, edits or gives. -/
def materialNames : List String :=
  Subject.material.editedNames ++ Contents.presentNames

variable {α : Type} [Scalar α] {hidden : Param α → Bool} {loc : Location α} {name : String}

section Parts

variable (sees : Sees materialNames hidden)

include sees

theorem blind_refraction : Blind hidden (refraction name loc) := by
  rw [refraction]
  split
  · exact .pure _
  · refine .bind (.ask sees (by decide) _ _) fun texture => ?_
    split
    · refine .bind (.ask sees (by decide) _ _) fun eta => ?_
      split
      · exact .refuse _ _
      · exact .bind (.remove _ _) fun _ => .pure _
    · refine .bind (.ask sees (by decide) _ _) fun index => ?_
      split
      · exact .pure _
      · refine .bind (.ask sees (by decide) _ _) fun eta => ?_
        split
        · exact .refuse _ _
        · exact .bind (.remove _ _) fun _ => .pure _
      · exact .refuse _ _

theorem blind_bumpMap : Blind hidden (bumpMap : Rule α (List (Param α))) := by
  rw [bumpMap]
  refine .bind (.ask sees (by decide) _ _) fun bump => ?_
  split
  · exact .pure _
  · exact .bind (.remove _ _) fun _ => .pure _

theorem blind_dropColor (target : String) (neutral : α) (mem : name ∈ materialNames) :
    Blind hidden (dropColor loc target name neutral) := by
  rw [dropColor]
  -- every way ends with the color and the texture removed
  have removed (harmless : Bool) : Blind hidden (do
      removeColor name
      remove "texture" name
      return harmless) :=
    .bind (.removeColor _) fun _ => .bind (.remove _ _) fun _ => .pure _
  refine .bind (.ask sees mem _ _) fun color => ?_
  dsimp only
  split
  · refine .bind (.hasColor sees mem) fun bound => ?_
    split
    · exact .report_definition sees mem _ _ _ (removed _)
    · exact removed _
  · exact removed _

theorem blind_opacity : Blind hidden (opacity loc) := by
  rw [opacity]
  refine .bind (.ask sees (by decide) _ _) fun texture => ?_
  split
  · exact .refuse _ _
  · refine .bind (.hasColor sees (by decide)) fun bound => ?_
    split
    · refine .bind (.ask sees (by decide) _ _) fun color => ?_
      split
      · exact .removeColor _
      · exact .refuse _ _
    · exact .pure _

theorem blind_coated (coat : List String) : Blind hidden (coated loc coat) := by
  rw [coated]
  refine .bind (blind_dropColor sees _ 0 (by decide)) fun matte => ?_
  split
  · exact .bind (.forEach (.remove "float") coat) fun _ => .pure _
  · exact .pure _

theorem blind_uber : Blind hidden (uber loc) := by
  rw [uber]
  refine .bind (blind_coated sees _) fun name => ?_
  refine .bind (blind_dropColor sees _ 0 (by decide)) fun _ => ?_
  refine .bind (blind_dropColor sees _ 0 (by decide)) fun _ => ?_
  refine .bind (.rename sees (by decide) (by decide)) fun _ => ?_
  exact .bind (blind_opacity sees) fun _ => .pure _

theorem blind_mixAmount : Blind hidden (mixAmount loc) := by
  rw [mixAmount]
  have removed (ds : List (Param α)) : Blind hidden (do
      removeColor "amount"
      return ds) :=
    .bind (.removeColor _) fun _ => .pure _
  refine .bind (.ask sees (by decide) _ _) fun color => ?_
  dsimp only
  split
  · split
    · exact .bind (.pure _) removed
    · exact .bind (.report _ _ _) fun _ => .bind (.pure _) removed
  · -- what is left to do once it is known whether the amount can be used
    have dropped (unusable : Bool) : Blind hidden (do
        if unusable then
          let d ← Action.get
          report .error loc
            ("Unable to update non-RGB spectrum \"amount\" to a scalar: " ++ d.definition "amount")
        let definitions ← pure []
        removeColor "amount"
        return definitions : Rule α (List (Param α))) := by
      have rest : Blind hidden _ := .bind (.pure []) removed
      dsimp only
      split
      · exact .report_definition sees (by decide) _ _ _ rest
      · exact rest
    refine .bind (.hasColor sees (by decide)) fun bound => ?_
    split
    · exact .bind (.pure _) dropped
    · refine .bind (.ask sees (by decide) _ _) fun texture => ?_
      exact .bind (.pure _) dropped

theorem blind_substrate : Blind hidden (substrate loc) := by
  rw [substrate]
  refine .bind (blind_dropColor sees _ 1 (by decide)) fun _ => ?_
  exact .bind (.rename sees (by decide) (by decide)) fun _ => .pure _

theorem blind_glass : Blind hidden (glass loc) := by
  rw [glass]
  refine .bind (blind_dropColor sees _ 1 (by decide)) fun _ => ?_
  exact .bind (blind_dropColor sees _ 1 (by decide)) fun _ => .pure _

theorem blind_plastic : Blind hidden (plastic loc) := by
  rw [plastic]
  refine .bind (blind_coated sees _) fun name => ?_
  exact .bind (.rename sees (by decide) (by decide)) fun _ => .pure _

theorem blind_metal : Blind hidden (metal loc) := by
  rw [metal]
  exact .bind (blind_dropColor sees _ 1 (by decide)) fun _ => .pure _

theorem blind_translucent : Blind hidden (translucent loc) := by
  rw [translucent]
  refine .bind (.rename sees (by decide) (by decide)) fun _ => ?_
  refine .bind (blind_dropColor sees _ 0 (by decide)) fun _ => ?_
  refine .bind (blind_dropColor sees _ 1 (by decide)) fun _ => ?_
  refine .bind (blind_dropColor sees _ 0 (by decide)) fun _ => ?_
  exact .bind (.remove _ _) fun _ => .pure _

theorem blind_materialBody : Blind hidden (materialBody name loc) := by
  have renamed {rule : Rule α String} (blind : rule.Blind hidden) :
      Blind hidden (do return ⟨← rule, []⟩ : Rule α (Upgraded α)) :=
    .bind blind fun _ => .pure _
  have reflectance (present : String) : Blind hidden (do
      rename "Kd" "reflectance"
      return ⟨present, []⟩ : Rule α (Upgraded α)) :=
    .bind (.rename sees (by decide) (by decide)) fun _ => .pure _
  unfold materialBody
  split
  · exact renamed (blind_uber sees)
  · exact .bind (blind_mixAmount sees) fun _ => .pure _
  · exact renamed (blind_substrate sees)
  · exact renamed (blind_glass sees)
  · exact renamed (blind_plastic sees)
  · exact .bind (.report _ _ _) fun _ => .pure _
  · exact reflectance _
  · exact reflectance _
  · exact renamed (blind_metal sees)
  · exact renamed (blind_translucent sees)
  · exact .bind (blind_dropColor sees _ 0 (by decide)) fun _ => .pure _
  · exact .pure _

/-- The rule for materials is blind to all parameters with other names. -/
theorem blind_material : Blind hidden (material name loc) := by
  rw [material]
  refine .bind (blind_refraction sees) fun eta => ?_
  refine .bind (blind_bumpMap sees) fun bump => ?_
  exact .bind (blind_materialBody sees) fun body => .pure _

end Parts

end Upgrade

end SceneScript
