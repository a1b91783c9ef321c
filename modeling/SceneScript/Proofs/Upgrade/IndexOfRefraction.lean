import SceneScript.Proofs.Upgrade.BroughtUpToDate
import SceneScript.Proofs.Upgrade.MaterialFaults

/-!
# The index of refraction under its new name

Of an index that is a texture and one that is a number the texture counts, and only an "eta" of the
same type stands in its way. So an index and an "eta" of different types are both kept, and a number
stays beside a texture under the old name (`index_becomes_eta`).
-/

set_option autoImplicit false

namespace SceneScript

open Dictionary

namespace Contents

variable {α : Type} {name : String} {c : Contents α}

/-- Of the parameters of the index, those of other types than the one that counts are left. -/
theorem named_withoutIndex :
    (c.withoutIndex name).named "index" = (c.named "index").filter fun p =>
      (c.index? name).all fun i => modernType p.type != i.type := by
  rw [withoutIndex]
  cases c.index? name with
  | none => simp
  | some i => simp only [named_remove, Option.all_some]

/-- The definition of the index is all there is under its present name. -/
theorem filter_etaDefinitions [Scalar α] {ds : List (Param α)}
    (keyed : Upgrade.Keyed [("texture", "displacement")] ds) :
    (c.etaDefinitions name ++ ds).filter (·.name == "eta") = c.etaDefinitions name := by
  have defined : (c.etaDefinitions name).filter (·.name == "eta") = c.etaDefinitions name := by
    apply List.filter_eq_self.2
    intro p mem
    obtain ⟨i, -, rfl⟩ := Option.map_eq_some_iff.1 (Option.mem_toList.1 mem)
    cases i with
    | texture name => simp [RefractiveIndex.definition]
    | number x => simp [RefractiveIndex.definition, Rule.floatDefinition]
  have other : ds.filter (·.name == "eta") = [] := by
    apply List.filter_eq_nil_iff.2
    intro p mem
    have named : p.name = "displacement" := by
      have key := keyed p mem
      simp only [List.mem_singleton, Prod.mk.injEq] at key
      exact key.2
    simp [named]
  rw [List.filter_append, defined, other, List.append_nil]

end Contents

namespace Upgrade

open Contents Rule

variable {α : Type} [Scalar α] {name : String} {loc : Location α} {c : Contents α}

/-- A material that defines nothing but its index and its displacement, and what it leaves. -/
theorem leaves_material (post : String → Contents α → Prop)
    (body : ∀ c₂, Trimmed ["bumpmap"] (c.withoutIndex name) c₂ →
      (materialBody name loc).Leaves c₂ fun u c' => u.definitions = [] ∧ post u.name c') :
    (material name loc).Leaves c fun u c' => ∃ bump, u.definitions = c.etaDefinitions name ++ bump ∧
      Keyed [("texture", "displacement")] bump ∧ post u.name c' := by
  rw [material]
  have index : (refraction name loc).Leaves c fun ds c₁ =>
      ds = c.etaDefinitions name ∧ c₁ = c.withoutIndex name := resolves_refraction.leaves ⟨rfl, rfl⟩
  refine index.bind ?_
  rintro eta c₁ ⟨rfl, rfl⟩
  refine brings_bumpMap.bind fun bump c₂ hbump => ?_
  refine (body c₂ hbump.trimmed).bind ?_
  rintro u c₃ ⟨nothing, left⟩
  exact .pure ⟨bump, by rw [nothing, List.append_nil], hbump.keyed, left⟩

/-- Glass and uber do not touch the parameters of the index any more, and glass does not touch those
called "eta". -/
theorem leaves_refracting (refracts : Refracts name) :
    (material name loc).Leaves c fun u c' => ∃ bump, u.definitions = c.etaDefinitions name ++ bump ∧
      Keyed [("texture", "displacement")] bump ∧
      c'.named "index" = (c.withoutIndex name).named "index" ∧
      (name = "glass" → c'.named "eta" = c.named "eta") := by
  refine leaves_material (fun _ c' => c'.named "index" = (c.withoutIndex name).named "index" ∧
    (name = "glass" → c'.named "eta" = c.named "eta")) fun c₂ bump => ?_
  rcases refracts with rfl | rfl
  · have glassy : (glass loc).Leaves c₂ fun _ c' => Trimmed ["Kr", "Kt"] c₂ c' :=
      tells_glass.leaves fun _ _ _ told => told.dropped.trimmed
    refine glassy.bind fun n c' trimmed => .pure ⟨rfl, ?_, fun _ => ?_⟩
    · rw [trimmed.named (by decide), bump.named (by decide)]
    · rw [trimmed.named (by decide), bump.named (by decide), trimmed_withoutIndex.named (by decide)]
  · refine (trimmed_uber loc).bind fun n c' trimmed => .pure ⟨rfl, ?_, fun glass => nomatch glass⟩
    rw [trimmed.named (by decide), bump.named (by decide)]

/-- Glass or uber is refused for its index exactly if the one that counts has an "eta" of its own type
beside it, or if it is several numbers; uber may be refused for its opacity. Otherwise the index that
counts is all that is defined under the name "eta", and only parameters of its type are gone under the
old name. -/
theorem index_becomes_eta (name : String) (refracts : Refracts name) (loc : Location α)
    (d : Dictionary α) :
    let c := d.contents
    let after := (material name loc).run d
    let left := after.state.contents
    ((∃ place, after.result = .error ⟨place, .indexAndEta name⟩) ↔
      ∃ i, c.index? name = some i ∧ c.HasEta i) ∧
    ((∃ place, after.result = .error ⟨place, .severalIndices⟩) ↔ c.ManyIndices name) ∧
    ((∃ u, after.result = .ok u) ↔ (∀ i, c.index? name = some i → ¬ c.HasEta i) ∧
      ¬ c.ManyIndices name ∧ (name = "uber" → c.opacityFault? = none)) ∧
    ∀ u, after.result = .ok u →
      u.definitions.filter (·.name == "eta") =
        ((c.index? name).map RefractiveIndex.definition).toList ∧
      (left.named "index" = (c.named "index").filter fun p =>
        (c.index? name).all fun i => modernType p.type != i.type) ∧
      (name = "glass" → left.named "eta" = c.named "eta") := by
  intro c after left
  have faults : (material name loc).Faults c _ := faults_material
  refine ⟨?_, ?_, ?_, fun u finished => ?_⟩
  · have foreseen : c.materialFault? name = _ ↔ _ :=
      materialFault?_eq_iff (.indexAndEta name) nofun nofun
    exact (faults d rfl _).trans (foreseen.trans refractionFault?_eq_indexAndEta_iff)
  · have foreseen : c.materialFault? name = _ ↔ _ :=
      materialFault?_eq_iff .severalIndices nofun nofun
    exact (faults d rfl _).trans (foreseen.trans refractionFault?_eq_severalIndices_iff)
  · exact (faults.finishes_iff rfl).trans materialFault?_eq_none_iff
  · obtain ⟨bump, defined, keyed, index, eta⟩ := leaves_refracting refracts d rfl u finished
    rw [defined]
    exact ⟨filter_etaDefinitions keyed, index.trans named_withoutIndex, eta⟩

/-- Control: glass with a number for its index. -/
theorem index_becomes_eta_glass :
    let window {α : Type} [Scalar α] (x : α) : Dictionary α := Writer.dictionary
      [⟨"float", "index", .unknown, [x], [], [], false, none⟩]
    let after := (material "glass" .unknown).run (window (1.5 : Float))
    after.result = .ok ⟨"dielectric", [floatDefinition "eta" 1.5]⟩ ∧
      after.state.contents.named "index" = [] := by
  intro window after
  -- nothing depends on the number
  have run {α : Type} [Scalar α] (x : α) : ((material "glass" .unknown).run (window x)).result =
      .ok ⟨"dielectric", [floatDefinition "eta" x]⟩ := by cbv
  have finished : after.result = _ := run 1.5
  have upgraded := (index_becomes_eta "glass" (Or.inl rfl) .unknown (window 1.5)).2.2.2 _ finished
  have given {α : Type} [Scalar α] (x : α) :
      (window x).contents.index? "glass" = some (.number x) := by cbv
  refine ⟨finished, upgraded.2.1.trans ?_⟩
  rw [given]
  rfl

/-- An index and an "eta" of different types are both kept, and so is a number beside a texture. -/
theorem mixed_indices_are_accepted :
    let number {α : Type} [Scalar α] (name : String) (x : α) : Param α :=
      ⟨"float", name, .unknown, [x], [], [], false, none⟩
    let texture {α : Type} [Scalar α] (name : String) : Param α :=
      ⟨"texture", name, .unknown, [], ["n"], [], false, none⟩
    let glass (ps : List (Param Float)) := (material "glass" .unknown).run (Writer.dictionary ps)
    let one := glass [texture "index", number "eta" 1.5]
    let two := glass [number "index" 1.5, texture "eta"]
    let three := glass [texture "index", number "index" 1.5]
    let eta : Param Float := .define "texture" "eta" [.string "n"]
    (one.result = .ok ⟨"dielectric", [eta]⟩ ∧ one.state.contents.params = [number "eta" 1.5]) ∧
    (two.result = .ok ⟨"dielectric", [floatDefinition "eta" 1.5]⟩ ∧
      two.state.contents.params = [texture "eta"]) ∧
    three.result = .ok ⟨"dielectric", [eta]⟩ ∧
      three.state.contents.params = [number "index" 1.5] := by
  intro number texture glass one two three eta
  -- nothing depends on the number
  have run {α : Type} [Scalar α] (x : α) : (material "glass" .unknown).run
      (Writer.dictionary [texture "index", number "eta" x]) =
        ⟨.ok ⟨"dielectric", [.define "texture" "eta" [.string "n"]]⟩,
          Writer.dictionary [number "eta" x], []⟩ := by cbv
  have run' {α : Type} [Scalar α] (x : α) : (material "glass" .unknown).run
      (Writer.dictionary [number "index" x, texture "eta"]) =
        ⟨.ok ⟨"dielectric", [floatDefinition "eta" x]⟩, Writer.dictionary [texture "eta"], []⟩ := by
    cbv
  have run'' {α : Type} [Scalar α] (x : α) : (material "glass" .unknown).run
      (Writer.dictionary [texture "index", number "index" x]) =
        ⟨.ok ⟨"dielectric", [.define "texture" "eta" [.string "n"]]⟩,
          Writer.dictionary [number "index" x], []⟩ := by cbv
  rw [show one = _ from run 1.5, show two = _ from run' 1.5, show three = _ from run'' 1.5]
  exact ⟨⟨rfl, rfl⟩, ⟨rfl, rfl⟩, rfl, rfl⟩

end Upgrade

end SceneScript
