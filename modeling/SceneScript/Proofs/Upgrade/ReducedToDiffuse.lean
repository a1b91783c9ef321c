import SceneScript.Proofs.Upgrade.IndexOfRefraction

/-!
# Coated materials without a gloss

An uber or plastic material whose gloss is black becomes a diffuse one, and the numbers of its coat are
taken out. Textures of the coat stay, and so does the index of an uber material, which has got its
present name before (`reduced_to_diffuse`).
-/

set_option autoImplicit false

namespace SceneScript

open Dictionary

namespace Contents

variable {α : Type} {type name : String} {c c' c'' : Contents α} {names coat : List String}

/-- What is removed is not found under other names. -/
theorem named_remove_of_ne {other : String} (ne : other ≠ name) :
    (c.removeWhere (hasType type other)).named name = c.named name := by
  rw [named_removeWhere]
  apply List.filter_eq_self.2
  intro p mem
  have same : p.name = name := beq_iff_eq.1 (List.mem_filter.1 mem).2
  rw [hasType_of_name_ne fun named => ne (named.symm.trans same), Bool.not_false]

variable [Scalar α]

/-- What becomes of a material that may have a coat. With a black gloss it is a diffuse one, and the
numbers of its coat are gone. -/
structure Coated (coat : List String) (c : Contents α) (present : String) (c' : Contents α) :
    Prop where
  present : present = if c.isNeutral "Ks" 0 then "diffuse" else "coateddiffuse"
  coat : ∀ n ∈ coat, c'.named n =
    if c.isNeutral "Ks" 0 then (c.named n).filter (fun p => modernType p.type != "float")
    else c.named n

namespace Coated

variable {present : String}

/-- Parameters of other names are deleted or renamed afterwards. -/
theorem trim (coated : Coated coat c present c') (trimmed : Trimmed names c' c'')
    (apart : ∀ n ∈ coat, n ∉ presentNames ++ names) : Coated coat c present c'' :=
  ⟨coated.present, fun n mem => (trimmed.named (apart n mem)).trans (coated.coat n mem)⟩

/-- Parameters of other names were deleted or renamed before. -/
theorem afterTrim (trimmed : Trimmed names c c') (coated : Coated coat c' present c'')
    (apart : ∀ n ∈ "Ks" :: coat, n ∉ presentNames ++ names) : Coated coat c present c'' := by
  rw [List.forall_mem_cons] at apart
  have gloss : c'.isNeutral "Ks" (0 : α) = c.isNeutral "Ks" 0 := (trimmed.sameOn apart.1).isNeutral
  refine ⟨?_, fun n mem => ?_⟩
  · rw [coated.present, gloss]
  · rw [coated.coat n mem, gloss, trimmed.named (apart.2 n mem)]

theorem name_iff (coated : Coated coat c present c') :
    present = "diffuse" ↔ c.isNeutral "Ks" 0 = true := by
  rw [coated.present]
  split
  · rename_i black
    exact iff_of_true rfl black
  · rename_i glossy
    exact iff_of_false (by decide) glossy

end Coated

/-- The definition of an index answers for its own type. -/
theorem hasType_definition {i : RefractiveIndex α} :
    hasType type name i.definition = ("eta" == name && i.type == type) := by
  cases i with
  | texture t => simp [hasType, RefractiveIndex.definition, RefractiveIndex.type, modernType]
  | number x =>
    simp [hasType, RefractiveIndex.definition, RefractiveIndex.type, Rule.floatDefinition, modernType]

end Contents

namespace Upgrade

open Contents Rule

variable {α : Type} {name : String} {loc : Location α} {c : Contents α}

/-- Parameters of one type are taken out under several names. -/
theorem leaves_forEach_remove {type : String} {items : List String} :
    Leaves (Action.forEach (remove type) items : Rule α Unit) c fun _ c' => ∀ n, c'.named n =
      if n ∈ items then (c.named n).filter (fun p => modernType p.type != type) else c.named n := by
  induction items generalizing c with
  | nil => exact .pure fun n => by simp
  | cons item rest ih =>
    refine .remove_bind (ih.mono fun _ c' left n => ?_)
    rw [left n]
    by_cases first : n = item
    · subst first
      rw [named_remove]
      simp [List.filter_filter]
    · rw [named_remove_of_ne (Ne.symm first)]
      simp [first]

variable [Scalar α]

theorem leaves_coated {coat : List String} (apart : ∀ n ∈ coat, n ∉ presentNames ++ ["Ks"]) :
    (coated loc coat).Leaves c (Coated coat c) := by
  rw [coated]
  have gloss : (dropColor loc "coateddiffuse" "Ks" 0).Leaves c fun black c₁ =>
      black = c.isNeutral "Ks" 0 ∧ Trimmed ["Ks"] c c₁ :=
    (tells_dropColor .black).leaves fun _ _ _ told => ⟨told.1, told.2.dropped.trimmed⟩
  refine gloss.bind ?_
  rintro black c₁ ⟨rfl, trimmed⟩
  cases black : c.isNeutral "Ks" (0 : α) with
  | true =>
    refine leaves_forEach_remove.bind fun _ c₂ left => .pure ⟨by simp [black], fun n mem => ?_⟩
    rw [left n, if_pos mem, black, trimmed.named (apart n mem), if_pos rfl]
  | false =>
    refine .pure ⟨by simp [black], fun n mem => ?_⟩
    rw [black, trimmed.named (apart n mem)]
    rfl

theorem leaves_uber : (uber loc).Leaves c (Coated ["eta", "roughness"] c) := by
  rw [uber]
  refine (leaves_coated (by decide)).bind fun n c₁ h₁ => ?_
  refine (trimmed_dropColor loc n 0 (List.mem_singleton_self "Kr")).bind fun _ c₂ h₂ => ?_
  refine (trimmed_dropColor loc n 0 (List.mem_singleton_self "Kt")).bind fun _ c₃ h₃ => ?_
  refine (trimmed_rename (by decide) (List.mem_singleton_self "Kd")).bind fun _ c₄ h₄ => ?_
  refine (trimmed_opacity loc (List.mem_singleton_self "opacity")).bind fun _ c₅ h₅ => .pure ?_
  exact (((h₁.trim h₂ (by decide)).trim h₃ (by decide)).trim h₄ (by decide)).trim h₅ (by decide)

theorem leaves_plastic : (plastic loc).Leaves c (Coated ["roughness", "eta"] c) := by
  rw [plastic]
  refine (leaves_coated (by decide)).bind fun n c₁ h₁ => ?_
  refine (trimmed_rename (by decide) (List.mem_singleton_self "Kd")).bind fun _ c₂ h₂ => .pure ?_
  exact h₁.trim h₂ (by decide)

/-- What is defined for uber or plastic, and what is left of it. -/
theorem leaves_coatable (coatable : name = "uber" ∨ name = "plastic") :
    (material name loc).Leaves c fun u c' => ∃ bump, u.definitions = c.etaDefinitions name ++ bump ∧
      Keyed [("texture", "displacement")] bump ∧ Coated ["eta", "roughness"] c u.name c' := by
  refine leaves_material (Coated ["eta", "roughness"] c) fun c₂ bump => ?_
  have before {present : String} {c' : Contents α}
      (coated : Coated ["eta", "roughness"] c₂ present c') :
      Coated ["eta", "roughness"] c present c' :=
    .afterTrim trimmed_withoutIndex (.afterTrim bump coated (by decide)) (by decide)
  rcases coatable with rfl | rfl
  · exact leaves_uber.bind fun n c' coated => .pure ⟨rfl, before coated⟩
  · refine leaves_plastic.bind fun n c' coated => .pure ⟨rfl, before ⟨coated.present, ?_⟩⟩
    intro m mem
    exact coated.coat m (by simpa [or_comm] using mem)

/-- The definitions of uber or plastic answer for no part of a coat but the index. -/
theorem defined_iff {type n : String} {bump : List (Param α)} (mem : n ∈ ["eta", "roughness"])
    (keyed : Keyed [("texture", "displacement")] bump) :
    (∀ p ∈ c.etaDefinitions name ++ bump, hasType type n p = false) ↔
      (n = "eta" → ∀ i, c.index? name = some i → i.type ≠ type) := by
  have other : ∀ p ∈ bump, hasType type n p = false := by
    intro p hp
    apply Bool.eq_false_iff.2
    intro has
    obtain ⟨k, given, -, named⟩ := keyed.key_of_hasType hp has
    rw [List.mem_singleton.1 given] at named
    exact absurd (named ▸ mem) (by decide)
  rw [List.forall_mem_append, and_iff_left other, etaDefinitions]
  cases c.index? name with
  | none => simp
  | some i =>
    rw [Option.map_some, Option.toList_some, List.forall_mem_singleton, hasType_definition]
    constructor
    · rintro apart rfl j ⟨⟩
      simpa using apart
    · intro apart
      by_cases eta : n = "eta"
      · simp [eta, apart eta i rfl]
      · simp [Ne.symm eta]

/-- Uber or plastic becomes a diffuse material exactly if its gloss is black. Then of the coat the
parameters that are no numbers are left. So numbers and textures are all gone, but for the textures that
were there and for the index of an uber material, which is defined again. -/
theorem reduced_to_diffuse (name : String) (coatable : name = "uber" ∨ name = "plastic")
    (loc : Location α) (d : Dictionary α) {u : Upgraded α}
    (finished : ((material name loc).run d).result = .ok u) :
    let c := d.contents
    let left := ((material name loc).run d).state.contents
    (u.name = "diffuse" ↔ c.isNeutral "Ks" 0 = true) ∧
    (u.name = "diffuse" → ∀ n ∈ ["eta", "roughness"],
      left.named n = (c.named n).filter (fun p => modernType p.type != "float") ∧
      ∀ type ∈ ["float", "texture"], (left.prepend u.definitions).Lacks type n ↔
        (type = "texture" → c.Lacks "texture" n) ∧
        (n = "eta" → ∀ i, c.index? name = some i → i.type ≠ type)) := by
  intro c left
  obtain ⟨bump, defined, keyed, coated⟩ := leaves_coatable coatable d rfl u finished
  refine ⟨coated.name_iff, fun diffuse n mem => ?_⟩
  have others : left.named n = (c.named n).filter (fun p => modernType p.type != "float") := by
    rw [coated.coat n mem, if_pos (coated.name_iff.1 diffuse)]
  refine ⟨others, fun type given => ?_⟩
  have kept : left.Lacks type n ↔ (type = "texture" → c.Lacks "texture" n) := by
    rw [lacks_iff_named, others]
    obtain rfl | rfl : type = "float" ∨ type = "texture" := by simpa using given
    · simp
    · rw [lacks_iff_named]
      constructor
      · intro without _ p mem textured
        exact without p (List.mem_filter.2 ⟨mem, by simp [textured]⟩) textured
      · exact fun without p mem => without rfl p (List.mem_filter.1 mem).1
  rw [lacks_prepend_iff, defined, defined_iff mem keyed, kept, and_comm]

/-- Control: plastic without a gloss is no longer rough. -/
theorem reduced_to_diffuse_plastic :
    let dull {α : Type} [Scalar α] (g x : α) : Dictionary α := Writer.dictionary
      [⟨"rgb", "Ks", .unknown, [g, g, g], [], [], false, none⟩,
        ⟨"float", "roughness", .unknown, [x], [], [], false, none⟩]
    let after := (material "plastic" .unknown).run (dull (0 : Float) 0.5)
    ∃ u, after.result = .ok u ∧ u.name = "diffuse" ∧
      after.state.contents.named "roughness" = [] := by
  intro dull after
  have gloss {α : Type} [Scalar α] (g x : α) :
      (dull g x).contents.rgb? "Ks" = some ⟨g, g, g⟩ := by cbv
  have black : (dull (0 : Float) 0.5).contents.isNeutral "Ks" 0 = true := by
    rw [isNeutral, gloss]
    decide +kernel
  obtain ⟨u, finished⟩ : ∃ u, after.result = .ok u :=
    (faults_material.finishes_iff rfl).2 (materialFault?_of_not_refracts (by decide))
  have reduced := reduced_to_diffuse "plastic" (Or.inr rfl) .unknown (dull 0 0.5) finished
  have diffuse : u.name = "diffuse" := reduced.1.2 black
  exact ⟨u, finished, diffuse, (reduced.2 diffuse "roughness" (by simp)).1⟩

/-- Without a gloss, uber keeps its index and plastic a texture for its roughness. -/
theorem diffuse_keeps_index_and_textures :
    let gloss {α : Type} [Scalar α] (g : α) : Param α :=
      ⟨"rgb", "Ks", .unknown, [g, g, g], [], [], false, none⟩
    let index {α : Type} [Scalar α] (x : α) : Param α :=
      ⟨"float", "index", .unknown, [x], [], [], false, none⟩
    let rough {α : Type} [Scalar α] : Param α :=
      ⟨"texture", "roughness", .unknown, [], ["r"], [], false, none⟩
    let uber := (material "uber" .unknown).run (Writer.dictionary [gloss (0 : Float), index 1.5])
    let plastic := (material "plastic" .unknown).run (Writer.dictionary [gloss (0 : Float), rough])
    (∃ u, uber.result = .ok u ∧ u.name = "diffuse" ∧ floatDefinition "eta" 1.5 ∈ u.definitions) ∧
    ∃ u, plastic.result = .ok u ∧ u.name = "diffuse" ∧
      plastic.state.contents.named "roughness" = [rough] := by
  intro gloss index rough uber plastic
  have zero : isConstant (⟨0, 0, 0⟩ : RGB Float) 0 = true := by decide +kernel
  constructor
  · -- nothing but the gloss is compared with a number
    have read {α : Type} [Scalar α] (g x : α) :
        (Writer.dictionary [gloss g, index x]).contents.rgb? "Ks" = some ⟨g, g, g⟩ ∧
          (Writer.dictionary [gloss g, index x]).contents.index? "uber" = some (.number x) ∧
          (Writer.dictionary [gloss g, index x]).contents.materialFault? "uber" = none :=
      ⟨by cbv, by cbv, by cbv⟩
    obtain ⟨rgb, given, accepted⟩ := read (0 : Float) 1.5
    obtain ⟨u, finished⟩ : ∃ u, uber.result = .ok u := (faults_material.finishes_iff rfl).2 accepted
    obtain ⟨bump, defined, -, coated⟩ := leaves_coatable (Or.inl rfl) _ rfl u finished
    refine ⟨u, finished, coated.name_iff.2 ?_, ?_⟩
    · rw [isNeutral, rgb]
      exact zero
    · rw [defined, etaDefinitions, given]
      exact List.mem_append_left _ (List.mem_singleton_self _)
  · have read {α : Type} [Scalar α] (g : α) :
        (Writer.dictionary [gloss g, rough]).contents.rgb? "Ks" = some ⟨g, g, g⟩ ∧
          ((Writer.dictionary [gloss g, rough]).contents.named "roughness").filter
            (fun p => modernType p.type != "float") = [rough] := ⟨by cbv, by cbv⟩
    obtain ⟨rgb, others⟩ := read (0 : Float)
    obtain ⟨u, finished⟩ : ∃ u, plastic.result = .ok u :=
      (faults_material.finishes_iff rfl).2 (materialFault?_of_not_refracts (by decide))
    obtain ⟨bump, -, -, coated⟩ := leaves_coatable (Or.inr rfl) _ rfl u finished
    have black : (Writer.dictionary [gloss (0 : Float), rough]).contents.isNeutral "Ks" 0 = true := by
      rw [isNeutral, rgb]
      exact zero
    refine ⟨u, finished, coated.name_iff.2 black, ?_⟩
    rw [coated.coat "roughness" (by simp), if_pos black, others]

end Upgrade

end SceneScript
