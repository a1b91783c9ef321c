import SceneScript.Proofs.Upgrade.Contents
import SceneScript.Upgrade.Image
import SceneScript.Upgrade.Light
import SceneScript.Upgrade.Material
import SceneScript.Upgrade.Shape
import SceneScript.Upgrade.Texture

/-!
# What the rules do to a dictionary

A rule that finishes has deleted some parameters and given a present name to those called "Kd"; the
others stand as they were and in the same order (`Contents.Trimmed`). Beside them it has put
definitions under new names. A parameter that is left under the type and the name of a definition
was in the dictionary before, unless the rules take out all there is under that type and name
(`Upgrade.Introduced`).

Both hold of every rule, by one lemma for each rule (`Upgrade.Revised`).
-/

set_option autoImplicit false

namespace SceneScript

namespace Contents

variable {α : Type}

/-- The present names for "Kd". -/
def presentNames : List String := ["reflectance", "transmittance"]

/-- What may become of each parameter: it stays, or it is deleted, or it is called "Kd" and gets a
present name. A parameter whose name is not one of `names` stays. -/
structure Fate (names : List String) (fate : Param α → Option (Param α)) : Prop where
  cases : ∀ p, fate p = none ∨ fate p = some p ∨
    p.name = "Kd" ∧ ∃ name ∈ presentNames, fate p = some { p with name }
  stays : ∀ p, p.name ∉ names → fate p = some p

/-- Contents that are left of others, after parameters with the given names were deleted or
renamed. -/
def Trimmed (names : List String) (c c' : Contents α) : Prop :=
  c'.colorSpace = c.colorSpace ∧ ∃ fate, Fate names fate ∧
    c'.own = c.own.filterMap fate ∧ c'.inherited = c.inherited.filterMap fate

namespace Trimmed

variable {names : List String} {c c' c'' : Contents α}

theorem refl : Trimmed names c c :=
  ⟨rfl, some, ⟨fun _ => Or.inr (Or.inl rfl), fun _ _ => rfl⟩, List.filterMap_some.symm,
    List.filterMap_some.symm⟩

theorem trans (first : Trimmed names c c') (second : Trimmed names c' c'') :
    Trimmed names c c'' := by
  obtain ⟨color, f, hf, own, inherited⟩ := first
  obtain ⟨color', g, hg, own', inherited'⟩ := second
  refine ⟨color'.trans color, fun p => (f p).bind g, ⟨fun p => ?_, fun p hp => ?_⟩, ?_, ?_⟩
  · -- a parameter that has its present name is not renamed once more
    rcases hf.cases p with deleted | stayed | ⟨old, name, present, renamed⟩
    · exact Or.inl (by rw [deleted, Option.bind_none])
    · rw [stayed, Option.bind_some]
      exact hg.cases p
    · rw [renamed, Option.bind_some]
      rcases hg.cases { p with name } with deleted | stayed | ⟨again, -⟩
      · exact Or.inl deleted
      · exact Or.inr (Or.inr ⟨old, name, present, stayed⟩)
      · obtain rfl : name = "Kd" := again
        exact absurd present (by simp [presentNames])
  · rw [hf.stays p hp, Option.bind_some, hg.stays p hp]
  · rw [own', own, List.filterMap_filterMap]
  · rw [inherited', inherited, List.filterMap_filterMap]

theorem mono {more : List String} (trimmed : Trimmed names c c') (sub : names ⊆ more) :
    Trimmed more c c' := by
  obtain ⟨color, f, hf, own, inherited⟩ := trimmed
  exact ⟨color, f, ⟨hf.cases, fun p hp => hf.stays p fun mem => hp (sub mem)⟩, own, inherited⟩

theorem removeWhere {dropped : Param α → Bool}
    (named : ∀ p, dropped p = true → p.name ∈ names) : Trimmed names c (c.removeWhere dropped) := by
  refine ⟨rfl, Option.guard (fun p => !dropped p), ⟨fun p => ?_, fun p hp => ?_⟩, ?_, ?_⟩
  · cases drop : dropped p with
    | true => exact Or.inl (by simp [drop])
    | false => exact Or.inr (Or.inl (by simp [drop]))
  · have keep : dropped p = false := Bool.eq_false_iff.2 fun drop => hp (named p drop)
    simp [keep]
  · rw [List.filterMap_eq_filter]
    rfl
  · rw [List.filterMap_eq_filter]
    rfl

theorem remove {type name : String} (mem : name ∈ names) :
    Trimmed names c (c.removeWhere (Dictionary.hasType type name)) := by
  apply removeWhere
  intro p dropped
  rwa [Dictionary.name_of_hasType dropped]

theorem removeColor {name : String} (mem : name ∈ names) :
    Trimmed names c (c.removeWhere (Dictionary.isColor name)) := by
  apply removeWhere
  intro p dropped
  rwa [Dictionary.name_of_isColor dropped]

theorem rename {after : String} (present : after ∈ presentNames) (mem : "Kd" ∈ names) :
    Trimmed names c (c.rename "Kd" after) := by
  refine ⟨rfl, some ∘ Param.renamed "Kd" after, ⟨fun p => ?_, fun p hp => ?_⟩, ?_, ?_⟩
  · rw [Function.comp_apply, Param.renamed]
    split
    · rename_i old
      exact Or.inr (Or.inr ⟨beq_iff_eq.1 old, after, present, rfl⟩)
    · exact Or.inr (Or.inl rfl)
  · have other : (p.name == "Kd") = false := by
      apply beq_false_of_ne
      rintro old
      exact hp (old ▸ mem)
    rw [Function.comp_apply, Param.renamed, other]
    rfl
  · rw [List.filterMap_eq_map]
    rfl
  · rw [List.filterMap_eq_map]
    rfl

/-- What is left was there before, perhaps under the name "Kd". -/
theorem mem_params (trimmed : Trimmed names c c') {q : Param α} (mem : q ∈ c'.params) :
    q ∈ c.params ∨ q.name ∈ presentNames := by
  obtain ⟨-, fate, hfate, own, inherited⟩ := trimmed
  rw [params, own, inherited, ← List.filterMap_append, List.mem_filterMap] at mem
  obtain ⟨p, hp, left⟩ := mem
  rcases hfate.cases p with deleted | stayed | ⟨-, name, present, renamed⟩
  · rw [deleted] at left
    exact absurd left.symm (Option.some_ne_none q)
  · rw [stayed] at left
    exact Or.inl (Option.some.inj left ▸ hp)
  · rw [renamed] at left
    exact Or.inr (Option.some.inj left ▸ present)

end Trimmed

end Contents

namespace Param

variable {α : Type} (type name : String) (values : List (ParamValue α))

/-- The values of a parameter do not touch its type and name. -/
theorem type_and_name_foldl_push (p : Param α) :
    (values.foldl push p).type = p.type ∧ (values.foldl push p).name = p.name := by
  induction values generalizing p with
  | nil => exact ⟨rfl, rfl⟩
  | cons v rest ih =>
    have one : (p.push v).type = p.type ∧ (p.push v).name = p.name := by cases v <;> exact ⟨rfl, rfl⟩
    obtain ⟨sameType, sameName⟩ := ih (p.push v)
    exact ⟨sameType.trans one.1, sameName.trans one.2⟩

variable [Scalar α]

@[simp] theorem type_define : (define type name values).type = type :=
  (type_and_name_foldl_push values _).1

@[simp] theorem name_define : (define type name values).name = name :=
  (type_and_name_foldl_push values _).2

end Param

namespace Upgrade

open Contents Rule

variable {α : Type}

/-- The types and names under which the rules take out all there is before they put in a
definition. -/
def clearedKeys : List (String × String) :=
  [("string", "lightsamplestrategy"), ("float", "scale"), ("blackbody", "L"), ("blackbody", "I")]

/-- A type and name for a definition that may stand beside what is left under them. -/
structure FreeKey (type name : String) : Prop where
  modern : modernType type = type
  fresh : name ∉ presentNames
  free : (type, name) ∉ clearedKeys

instance (type name : String) : Decidable (FreeKey type name) :=
  decidable_of_iff (modernType type = type ∧ name ∉ presentNames ∧ (type, name) ∉ clearedKeys)
    ⟨fun ⟨modern, fresh, free⟩ => ⟨modern, fresh, free⟩,
      fun key => ⟨key.modern, key.fresh, key.free⟩⟩

/-- A definition that was put in when `c` was brought to `c'`. Its type has the present spelling, and
what is left under its type and name was there before, if the rules leave anything. -/
structure Introduced (c c' : Contents α) (p : Param α) : Prop where
  modern : modernType p.type = p.type
  fresh : p.name ∉ presentNames
  leftover : ∀ q ∈ c'.params, Dictionary.hasType p.type p.name q = true →
    q ∈ c.params ∧ (p.type, p.name) ∉ clearedKeys

/-- What a rule has made of `c`: the definitions and the rest `c'`. -/
structure Revised (names : List String) (c : Contents α) (definitions : List (Param α))
    (c' : Contents α) : Prop where
  trimmed : Trimmed names c c'
  introduced : ∀ p ∈ definitions, Introduced c c' p

namespace Introduced

variable {names : List String} {c c' c'' : Contents α} {p : Param α}

/-- A definition, and what comes after it. -/
theorem before (introduced : Introduced c c' p) (later : Trimmed names c' c'') :
    Introduced c c'' p := by
  refine ⟨introduced.modern, introduced.fresh, fun q mem has => ?_⟩
  rcases later.mem_params mem with left | present
  · exact introduced.leftover q left has
  · exact absurd (Dictionary.name_of_hasType has ▸ present) introduced.fresh

/-- A definition, and what went before it. -/
theorem behind (earlier : Trimmed names c c') (introduced : Introduced c' c'' p) :
    Introduced c c'' p := by
  refine ⟨introduced.modern, introduced.fresh, fun q mem has => ?_⟩
  obtain ⟨left, free⟩ := introduced.leftover q mem has
  rcases earlier.mem_params left with was | present
  · exact ⟨was, free⟩
  · exact absurd (Dictionary.name_of_hasType has ▸ present) introduced.fresh

variable [Scalar α] {type name : String} {values : List (ParamValue α)}

/-- A definition beside what is left of the same type and name. -/
theorem of_trimmed (key : FreeKey type name) (trimmed : Trimmed names c c') :
    Introduced c c' (.define type name values) := by
  refine ⟨by simpa using key.modern, by simpa using key.fresh, fun q mem has => ?_⟩
  simp only [Param.type_define, Param.name_define] at has ⊢
  rcases trimmed.mem_params mem with was | present
  · exact ⟨was, key.free⟩
  · exact absurd (Dictionary.name_of_hasType has ▸ present) key.fresh

/-- A definition beside a dictionary that is left as it is. -/
theorem beside (key : FreeKey type name) : Introduced c c (.define type name values) :=
  of_trimmed key (.refl : Trimmed [] c c)

/-- A definition in place of all there is of its type and name. -/
theorem of_removed (modern : modernType type = type) (fresh : name ∉ presentNames)
    (removed : ∀ q ∈ c'.params, Dictionary.hasType type name q = false) :
    Introduced c c' (.define type name values) := by
  refine ⟨by simpa using modern, by simpa using fresh, fun q mem has => ?_⟩
  simp only [Param.type_define, Param.name_define] at has
  exact absurd has (by simp [removed q mem])

end Introduced

namespace Revised

variable {names : List String} {c c' c'' : Contents α} {ps qs : List (Param α)} {p : Param α}

theorem trim (trimmed : Trimmed names c c') : Revised names c [] c' :=
  ⟨trimmed, by simp⟩

theorem refl : Revised names c [] c := trim .refl

theorem mono {more : List String} (revised : Revised names c ps c') (sub : names ⊆ more) :
    Revised more c ps c' :=
  ⟨revised.trimmed.mono sub, revised.introduced⟩

theorem single (trimmed : Trimmed names c c') (introduced : Introduced c c' p) :
    Revised names c [p] c' :=
  ⟨trimmed, by simpa using introduced⟩

/-- Two rules, one after the other. -/
theorem append (first : Revised names c ps c') (second : Revised names c' qs c'') :
    Revised names c (ps ++ qs) c'' := by
  refine ⟨first.trimmed.trans second.trimmed, fun p hp => ?_⟩
  rcases List.mem_append.1 hp with left | right
  · exact (first.introduced p left).before second.trimmed
  · exact (second.introduced p right).behind first.trimmed

/-- A rule that only deletes or renames, after another one. -/
theorem andThen (first : Revised names c ps c') (later : Trimmed names c' c'') :
    Revised names c ps c'' := by
  simpa using first.append (trim later)

/-- A rule after one that only deletes or renames. -/
theorem afterTrim (earlier : Trimmed names c c') (second : Revised names c' ps c'') :
    Revised names c ps c'' := by
  simpa using (trim earlier).append second

end Revised

end Upgrade

end SceneScript
