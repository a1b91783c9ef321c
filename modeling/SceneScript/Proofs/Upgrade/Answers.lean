import SceneScript.Proofs.Upgrade.Revision

/-!
# Answers

What a rule reads of a dictionary are answers: the numbers, the first text or the truth values of the
parameter that answers for a type and a name (`Contents.numbersOf`, `Contents.word`,
`Contents.flags`), the rgb color of a name (`Contents.rgb?`), and whether a name has a color at all
(`Contents.Colorless`).

An edit that concerns other names leaves every answer about a name as it is (`Contents.SameOn`). So
do the definitions of a rule when they are put in front of what the rule has left
(`Contents.prepend`), unless they stand under the type and name that is asked for
(`Upgrade.Keyed`).
-/

set_option autoImplicit false

namespace SceneScript

open Dictionary

namespace Contents

variable {α : Type}

/-- The numbers of the parameter that answers for a type and a name. -/
def numbersOf (type name : String) (c : Contents α) : List α :=
  ((c.find? (hasType type name)).map (·.numbers)).getD []

/-- The first text of the parameter that answers for a type and a name, empty if there is none. -/
def word (type name : String) (c : Contents α) : String :=
  ((c.find? (hasType type name)).bind (·.strings.head?)).getD ""

/-- The truth values of the bool parameter that answers for a name. -/
def flags (name : String) (c : Contents α) : List Bool :=
  ((c.find? (hasType "bool" name)).map (·.bools)).getD []

/-- The rgb color of a name, if the parameter that answers has three numbers. -/
def rgb? (name : String) (c : Contents α) : Option (RGB α) :=
  RGB.ofNumbers? (c.numbersOf "rgb" name)

/-- No parameter has the type and the name. -/
def Lacks (type name : String) (c : Contents α) : Prop :=
  c.find? (hasType type name) = none

/-- No color parameter has the name. -/
def Colorless (name : String) (c : Contents α) : Prop :=
  ∀ p ∈ c.params, isColor name p = false

/-- Every question about parameters of one name has the same answer. -/
def SameOn (name : String) (c c' : Contents α) : Prop :=
  ∀ wanted : Param α → Bool, (∀ p, wanted p = true → p.name = name) →
    c'.find? wanted = c.find? wanted

/-- The contents with more parameters of their own in front. -/
def prepend (ps : List (Param α)) (c : Contents α) : Contents α :=
  { c with own := ps ++ c.own }

/-- The parameters of one name, whatever their types. -/
def named (name : String) (c : Contents α) : List (Param α) :=
  c.params.filter (·.name == name)

variable {name other type : String} {c c' c'' : Contents α} {dropped wanted : Param α → Bool}

theorem named_removeWhere :
    (c.removeWhere dropped).named name = (c.named name).filter fun p => !dropped p := by
  simp only [named, params, removeWhere, List.filter_append, List.filter_filter, Bool.and_comm]

/-- Of the parameters of a name, a removal leaves those of other types. -/
theorem named_remove :
    (c.removeWhere (hasType type name)).named name =
      (c.named name).filter fun p => modernType p.type != type := by
  rw [named_removeWhere]
  apply List.filter_congr
  intro p mem
  have same : (p.name == name) = true := (List.mem_filter.1 mem).2
  rw [hasType, same, Bool.true_and, bne]

theorem lacks_iff_named : c.Lacks type name ↔ ∀ p ∈ c.named name, modernType p.type ≠ type := by
  simp [Lacks, find?_eq_none_iff, named, hasType]

theorem colorless_iff : c.Colorless name ↔ c.find? (isColor name) = none :=
  find?_eq_none_iff.symm

theorem bind_numbers_head? :
    (c.find? (hasType type name)).bind (·.numbers.head?) = (c.numbersOf type name).head? := by
  rw [numbersOf]
  cases c.find? (hasType type name) <;> rfl

theorem bind_ofNumbers? :
    (c.find? (hasType "rgb" name)).bind (fun p => RGB.ofNumbers? p.numbers) = c.rgb? name := by
  rw [rgb?, numbersOf]
  cases c.find? (hasType "rgb" name) <;> rfl

instance (name : String) (c : Contents α) : Decidable (c.Colorless name) :=
  inferInstanceAs (Decidable (∀ p ∈ c.params, isColor name p = false))

theorem Colorless.removeWhere (colorless : c.Colorless name) :
    (c.removeWhere dropped).Colorless name :=
  fun p hp => colorless p (mem_params_removeWhere.1 hp).1

theorem colorless_removeColor : (c.removeWhere (isColor name)).Colorless name :=
  fun _ hp => (mem_params_removeWhere.1 hp).2

theorem lacks_remove : (c.removeWhere (hasType type name)).Lacks type name :=
  find?_eq_none_iff.2 fun _ hp => (mem_params_removeWhere.1 hp).2

/-- Without a color there is none of a color type. -/
theorem Colorless.lacks (colorless : c.Colorless name) (color : type ∈ colorTypes) :
    c.Lacks type name := by
  apply find?_eq_none_iff.2
  intro p hp
  apply Bool.eq_false_iff.2
  intro has
  exact absurd (isColor_of_hasType color has) (by simp [colorless p hp])

namespace Lacks

variable (lacks : c.Lacks type name)

include lacks

theorem numbersOf : c.numbersOf type name = [] := by
  rw [Contents.numbersOf, lacks]
  rfl

theorem word : c.word type name = "" := by
  rw [Contents.word, lacks]
  rfl

end Lacks

theorem Lacks.flags (lacks : c.Lacks "bool" name) : c.flags name = [] := by
  rw [Contents.flags, lacks]
  rfl

/-- Without a color there are no numbers of a color. -/
theorem Colorless.numbersOf (colorless : c.Colorless name) (color : type ∈ colorTypes) :
    c.numbersOf type name = [] :=
  (colorless.lacks color).numbersOf

theorem Colorless.rgb? (colorless : c.Colorless name) : c.rgb? name = none := by
  rw [Contents.rgb?, colorless.numbersOf (by decide)]
  rfl

/-- What was removed has no numbers. -/
theorem numbersOf_remove : (c.removeWhere (hasType type name)).numbersOf type name = [] :=
  lacks_remove.numbersOf

/-- What is removed answers no question about another type. -/
theorem find?_remove_of_type_ne (ne : type ≠ other) :
    (c.removeWhere (hasType type name)).find? (hasType other name) =
      c.find? (hasType other name) := by
  apply find?_removeWhere_of_disjoint
  intro p asked
  simp only [hasType, Bool.and_eq_true, beq_iff_eq] at asked
  simp [hasType, asked.2, ne.symm]

/-! ## The same answers -/

section Congruence

variable (same : c'.find? (hasType type name) = c.find? (hasType type name))

include same

theorem numbersOf_congr : c'.numbersOf type name = c.numbersOf type name := by
  rw [numbersOf, numbersOf, same]

theorem word_congr : c'.word type name = c.word type name := by
  rw [word, word, same]

theorem lacks_congr : c'.Lacks type name ↔ c.Lacks type name := by
  rw [Lacks, Lacks, same]

end Congruence

theorem flags_congr (same : c'.find? (hasType "bool" name) = c.find? (hasType "bool" name)) :
    c'.flags name = c.flags name := by
  rw [flags, flags, same]

namespace SameOn

theorem refl : SameOn name c c := fun _ _ => rfl

theorem trans (first : SameOn name c c') (second : SameOn name c' c'') : SameOn name c c'' :=
  fun wanted named => (second wanted named).trans (first wanted named)

theorem remove (ne : other ≠ name) : SameOn name c (c.removeWhere (hasType type other)) := by
  intro wanted named
  apply find?_removeWhere_of_disjoint
  intro p asked
  exact hasType_of_name_ne fun same => ne (same ▸ named p asked)

theorem removeColor (ne : other ≠ name) : SameOn name c (c.removeWhere (isColor other)) := by
  intro wanted named
  apply find?_removeWhere_of_disjoint
  intro p asked
  exact isColor_of_name_ne fun same => ne (same ▸ named p asked)

theorem find? (same : SameOn name c c') (type : String) :
    c'.find? (hasType type name) = c.find? (hasType type name) :=
  same _ fun _ => name_of_hasType

theorem numbersOf (same : SameOn name c c') (type : String) :
    c'.numbersOf type name = c.numbersOf type name :=
  numbersOf_congr (same.find? type)

theorem word (same : SameOn name c c') (type : String) : c'.word type name = c.word type name :=
  word_congr (same.find? type)

theorem rgb? (same : SameOn name c c') : c'.rgb? name = c.rgb? name := by
  rw [Contents.rgb?, Contents.rgb?, same.numbersOf]

theorem colorless_iff (same : SameOn name c c') : c'.Colorless name ↔ c.Colorless name := by
  rw [Contents.colorless_iff, Contents.colorless_iff, same]
  exact fun p => name_of_isColor

end SameOn

namespace Fate

variable {names : List String} {fate : Param α → Option (Param α)} (hfate : Fate names fate)
  (apart : name ∉ presentNames ++ names) (named : ∀ p, wanted p = true → p.name = name)
  {p : Param α}

include hfate apart named

/-- A parameter of another name than those that are edited stays. -/
theorem stays_of_wanted (asked : wanted p = true) : fate p = some p := by
  rw [List.mem_append, not_or] at apart
  exact hfate.stays p (named p asked ▸ apart.2)

/-- What is asked for afterwards is what was asked for before. -/
theorem any_eq : (fate p).any wanted = wanted p := by
  cases before : wanted p with
  | true => rw [hfate.stays_of_wanted apart named before, Option.any_some, before]
  | false =>
    rcases hfate.cases p with deleted | stayed | ⟨-, present, mem, renamed⟩
    · rw [deleted, Option.any_none]
    · rw [stayed, Option.any_some, before]
    · rw [renamed, Option.any_some]
      apply Bool.eq_false_iff.2
      intro after
      obtain rfl : present = name := named _ after
      exact apart (List.mem_append_left _ mem)

end Fate

namespace Trimmed

variable {names more : List String}

/-- Two trims of different names, one after the other. -/
theorem andThen (first : Trimmed names c c') (later : Trimmed more c' c'') :
    Trimmed (names ++ more) c c'' :=
  (first.mono (List.subset_append_left _ _)).trans (later.mono (List.subset_append_right _ _))

/-- A parameter of another name stays. -/
theorem keeps {p : Param α} (trimmed : Trimmed names c c') (mem : p ∈ c.params)
    (apart : p.name ∉ names) : p ∈ c'.params := by
  obtain ⟨-, fate, hfate, own, inherited⟩ := trimmed
  rw [params, own, inherited, ← List.filterMap_append]
  exact List.mem_filterMap.2 ⟨p, mem, hfate.stays p apart⟩

/-- A name without a color stays without one, unless it is a present name. -/
theorem colorless (trimmed : Trimmed names c c') (fresh : name ∉ presentNames)
    (colorless : c.Colorless name) : c'.Colorless name := by
  intro p mem
  rcases trimmed.mem_params mem with was | present
  · exact colorless p was
  · exact isColor_of_name_ne fun same => fresh (same ▸ present)

theorem lacks {type : String} (trimmed : Trimmed names c c') (fresh : name ∉ presentNames)
    (lacks : c.Lacks type name) : c'.Lacks type name := by
  refine find?_eq_none_iff.2 fun p mem => ?_
  rcases trimmed.mem_params mem with was | present
  · exact find?_eq_none_iff.1 lacks p was
  · exact hasType_of_name_ne fun same => fresh (same ▸ present)

/-- A trim does not touch other names. -/
theorem sameOn (trimmed : Trimmed names c c') (apart : name ∉ presentNames ++ names) :
    SameOn name c c' := by
  obtain ⟨-, fate, hfate, own, inherited⟩ := trimmed
  intro wanted named
  have kept (ps : List (Param α)) :
      (ps.filterMap fate).reverse.find? wanted = ps.reverse.find? wanted := by
    rw [← List.filterMap_reverse, List.find?_filterMap]
    simp only [hfate.any_eq apart named]
    cases found : ps.reverse.find? wanted with
    | none => rfl
    | some p => rw [Option.bind_some, hfate.stays_of_wanted apart named (List.find?_some found)]
  rw [Contents.find?, Contents.find?, own, inherited, kept, kept]

/-- The parameters of a name that a trim does not touch stay, in the same order. -/
theorem named (trimmed : Trimmed names c c') (apart : name ∉ presentNames ++ names) :
    c'.named name = c.named name := by
  obtain ⟨-, fate, hfate, own, inherited⟩ := trimmed
  have same (p : Param α) : (p.name == name) = true → p.name = name := beq_iff_eq.1
  have kept : (fun p => (fate p).filter (·.name == name)) = Option.guard (·.name == name) := by
    funext p
    cases asked : p.name == name with
    | true => simp [hfate.stays_of_wanted apart same asked, asked]
    | false =>
      have gone : Option.guard (·.name == name) p = none := Option.guard_eq_none_iff.2 asked
      have unwanted := (hfate.any_eq apart same).trans asked
      rw [gone, Option.filter_eq_none_iff]
      intro q left
      rw [left, Option.any_some] at unwanted
      exact Bool.eq_false_iff.1 unwanted
  rw [Contents.named, Contents.named, params, own, inherited, ← List.filterMap_append,
    List.filter_filterMap, kept, List.filterMap_eq_filter, ← params]

end Trimmed

/-! ## Definitions in front -/

@[simp] theorem prepend_nil : c.prepend [] = c := rfl

theorem params_prepend (ps : List (Param α)) : (c.prepend ps).params = ps ++ c.params :=
  List.append_assoc ps c.own c.inherited

theorem colorless_prepend_iff {ps : List (Param α)} :
    (c.prepend ps).Colorless name ↔ (∀ p ∈ ps, isColor name p = false) ∧ c.Colorless name := by
  simp only [Colorless, params_prepend, List.forall_mem_append]

theorem lacks_prepend_iff {ps : List (Param α)} : (c.prepend ps).Lacks type name ↔
    (∀ p ∈ ps, hasType type name p = false) ∧ c.Lacks type name := by
  simp only [Lacks, find?_eq_none_iff, params_prepend, List.forall_mem_append]

/-- What stands in front answers only for what nothing else of its own answers. -/
theorem find?_prepend (ps : List (Param α)) :
    (c.prepend ps).find? wanted = c.find? wanted ∨
      ∃ p ∈ ps, wanted p = true ∧ (c.prepend ps).find? wanted = some p := by
  have search : (c.prepend ps).find? wanted =
      ((c.own.reverse.find? wanted).or (ps.reverse.find? wanted)).or
        (c.inherited.reverse.find? wanted) := by
    rw [find?, prepend, List.reverse_append, List.find?_append]
  rw [search, find?]
  cases c.own.reverse.find? wanted with
  | some q => exact Or.inl rfl
  | none =>
    cases front : ps.reverse.find? wanted with
    | none => exact Or.inl rfl
    | some p =>
      exact Or.inr ⟨p, List.mem_reverse.1 (List.mem_of_find?_eq_some front),
        List.find?_some front, rfl⟩

theorem find?_prepend_of_unasked {ps : List (Param α)} (unasked : ∀ p ∈ ps, wanted p = false) :
    (c.prepend ps).find? wanted = c.find? wanted := by
  rcases find?_prepend ps with same | ⟨p, mem, asked, -⟩
  · exact same
  · exact absurd asked (by simp [unasked p mem])

/-- A text that neither stands there nor in front is not read. -/
theorem word_prepend_ne {ps : List (Param α)} {text : String} (was : c.word type name ≠ text)
    (defined : ∀ p ∈ ps, hasType type name p = true → p.strings.head?.getD "" ≠ text) :
    (c.prepend ps).word type name ≠ text := by
  rcases find?_prepend ps with same | ⟨p, mem, asked, found⟩
  · rwa [word_congr same]
  · rw [word, found]
    exact defined p mem asked

end Contents

namespace Upgrade

open Contents

variable {α : Type} {keys more : List (String × String)} {ps qs : List (Param α)} {p : Param α}
  {type name : String} {c : Contents α}

/-- Parameters that stand under the given types and names. -/
def Keyed (keys : List (String × String)) (ps : List (Param α)) : Prop :=
  ∀ p ∈ ps, (p.type, p.name) ∈ keys

namespace Keyed

theorem nil : Keyed keys ([] : List (Param α)) := by simp [Keyed]

theorem define [Scalar α] {values : List (ParamValue α)} :
    Keyed [(type, name)] [Param.define type name values] := by
  simp [Keyed]

theorem append (first : Keyed keys ps) (second : Keyed more qs) : Keyed (keys ++ more) (ps ++ qs) := by
  intro p hp
  rw [List.mem_append] at hp ⊢
  exact hp.imp (first p) (second p)

theorem mono (keyed : Keyed keys ps) (sub : keys ⊆ more) : Keyed more ps :=
  fun p hp => sub (keyed p hp)

theorem key_of_hasType (keyed : Keyed keys ps) (mem : p ∈ ps) (has : hasType type name p = true) :
    ∃ k ∈ keys, modernType k.1 = type ∧ k.2 = name := by
  simp only [hasType, Bool.and_eq_true, beq_iff_eq] at has
  exact ⟨_, keyed p mem, has.2, has.1⟩

/-- Definitions are not asked for under other types and names. -/
theorem find?_prepend (keyed : Keyed keys ps)
    (apart : ∀ k ∈ keys, ¬ (modernType k.1 = type ∧ k.2 = name)) :
    (c.prepend ps).find? (hasType type name) = c.find? (hasType type name) := by
  apply find?_prepend_of_unasked
  intro p hp
  apply Bool.eq_false_iff.2
  intro has
  obtain ⟨k, mem, same⟩ := keyed.key_of_hasType hp has
  exact apart k mem same

/-- Definitions of other names or without a color leave a name without a color. -/
theorem colorless_prepend (keyed : Keyed keys ps)
    (apart : ∀ k ∈ keys, ¬ (isColorType k.1 = true ∧ k.2 = name)) :
    (c.prepend ps).Colorless name ↔ c.Colorless name := by
  rw [colorless_iff, colorless_iff, find?_prepend_of_unasked]
  intro p hp
  apply Bool.eq_false_iff.2
  intro color
  simp only [isColor, Bool.and_eq_true, beq_iff_eq] at color
  exact apart _ (keyed p hp) color.symm

end Keyed

end Upgrade

end SceneScript
