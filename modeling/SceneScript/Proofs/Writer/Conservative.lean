import SceneScript.Proofs.Upgrade.OutOfReach
import SceneScript.Proofs.Writer.Pages
import SceneScript.Scalar.Double

/-!
# What an upgrading writer leaves alone

An upgrading writer deletes and renames no parameters but those whose names the rules edit, and it
keeps the others in their order. For a directive that the rules have nothing to do with, it puts out
the same text as a writer that does not upgrade (`alike_interpret`), and so for a whole run of such
directives. Only a named material is printed in another order, with its type first.
-/

set_option autoImplicit false

namespace SceneScript

open Upgrade

variable {α : Type}

namespace Directive

/-- A directive that has no name that a rule tests for, and no parameter that its rule looks for, to
delete it, rename it or put another in its place. -/
def OutOfReach : Directive α → Prop
  | camera name params => Subject.Misses .camera name params
  | film name _ => name ≠ "image"
  | sampler name _ => name ∉ ["lowdiscrepancy", "02sequence", "maxmindist"]
  | pixelFilter name params => Subject.Misses .pixelFilter name params
  | integrator name params => Subject.Misses .integrator name params
  | texture _ kind implementation params =>
    kind ≠ "color" ∧ implementation ≠ "scale" ∧ Subject.Misses .texture implementation params
  | material name params => Subject.Misses .material name params
  | makeNamedMaterial _ params =>
    Subject.Misses .material (Dictionary.oneString "type" "" (Writer.dictionary params)).1 params
  | lightSource name params => Subject.Misses .light name params
  | areaLightSource name params => Subject.Misses .areaLight name params
  | shape name params => Subject.Misses .shape name params
  | _ => True

/-- The directive with the type of a named material in front, as the only one. -/
def typeFirst [Scalar α] : Directive α → Directive α
  | makeNamedMaterial name params =>
    makeNamedMaterial name
      (Rule.stringDefinition "type" (Dictionary.oneString "type" "" (Writer.dictionary params)).1 ::
        params.filter (fun p => !Dictionary.hasType "string" "type" p))
  | d => d

end Directive

namespace Writer

/-! ## Actions that put out the same text -/

/-- Two actions that come to the same and put out the same text, perhaps in other chunks. -/
def Alike (act act' : Write α Unit) : Prop :=
  ∀ o, (act.run o).result = (act'.run o).result ∧ (act.run o).state = (act'.run o).state ∧
    textOf (act.run o).notices = textOf (act'.run o).notices

namespace Alike

variable {act act' : Write α Unit}

theorem refl : Alike act act := fun _ => ⟨rfl, rfl, rfl⟩

theorem of_run_eq (same : ∀ o, act.run o = act'.run o) : Alike act act' := by
  intro o
  rw [same o]
  exact ⟨rfl, rfl, rfl⟩

theorem of_puts {p : Page} (put : Puts act p) (put' : Puts act' p) : Alike act act' := by
  intro o
  obtain ⟨ns, run, text⟩ := put o
  obtain ⟨ns', run', text'⟩ := put' o
  rw [run, run']
  exact ⟨rfl, rfl, text.trans text'.symm⟩

end Alike

variable {params : List (Param α)} {header keyword name : String} {loc : Location α}

theorem avoids_dictionary {names : List String} :
    (dictionary params).Avoids names ↔ ∀ p ∈ params, p.name ∉ names := by
  rw [Dictionary.Avoids, params_dictionary]

/-- An idle rule hands on the parameters as they are. -/
theorem run_applyRule_of_idle {β γ : Type} {rule : Rule α β} {b : β}
    (idle : rule.Idle (dictionary params) b) (next : β × Dictionary α → Write α γ)
    (o : OpenScopes α) :
    (applyRule rule params >>= next).run o = (next (b, dictionary params)).run o := by
  have result : (rule.run (dictionary params)).result = .ok b := congrArg Outcome.result idle
  have applied : (applyRule rule params).run o = ⟨.ok (b, dictionary params), o, []⟩ := by
    rw [applyRule, Action.run_runOn_of_ok refusal WriteNotice.message o result, idle]
    rfl
  rw [Action.run_bind_of_eq_ok applied]
  rfl

variable [Scalar α]

theorem alike_revisedEntity {rule : Rule α (List (Param α))}
    (idle : rule.Idle (dictionary params) []) :
    Alike (revisedEntity true header params rule) (revisedEntity false header params rule) :=
  .of_run_eq fun o => run_applyRule_of_idle idle _ o

theorem alike_renamedEntity {rule : Rule α (Upgraded α)}
    (idle : rule.Idle (dictionary params) ⟨name, []⟩) :
    Alike (renamedEntity true keyword name params rule)
      (renamedEntity false keyword name params rule) :=
  .of_run_eq fun o => run_applyRule_of_idle idle _ o

/-- The rule for a named material whose type is out of reach takes the type out and defines it. -/
theorem run_namedMaterialRule (loc : Location α)
    (misses : (Directive.makeNamedMaterial name params).OutOfReach) :
    (namedMaterialRule loc).run (dictionary params) =
      ⟨.ok [Rule.stringDefinition "type" (Dictionary.oneString "type" "" (dictionary params)).1],
        (Dictionary.oneString "type" "" (dictionary params)).2.remove "string" "type", []⟩ := by
  have avoids : (Dictionary.oneString "type" "" (dictionary params)).2.Avoids
      Subject.material.editedNames := by
    rw [Dictionary.Avoids, Dictionary.oneString, Dictionary.params_ask, params_dictionary]
    exact misses.2
  have asked : (Rule.look (Dictionary.oneString "type" "")).run (dictionary params) =
      ⟨.ok _, (Dictionary.oneString "type" "" (dictionary params)).2, []⟩ := rfl
  have idle : (material _ loc).run _ = _ := idle_material misses.1 avoids
  rw [namedMaterialRule, Action.run_bind_of_eq_ok asked, Action.run_bind_of_eq_ok idle]
  rfl

/-- A named material whose type is out of reach: the type is put in front. -/
theorem alike_namedMaterial (misses : (Directive.makeNamedMaterial name params).OutOfReach) :
    Alike (interpret true (.makeNamedMaterial name params) loc)
      (interpret false (Directive.typeFirst (.makeNamedMaterial name params)) loc) := by
  let left := (Dictionary.oneString "type" "" (dictionary params)).2.remove "string" "type"
  let type : Param α :=
    Rule.stringDefinition "type" (Dictionary.oneString "type" "" (dictionary params)).1
  have others : left.params =
      params.filter (fun p => !Dictionary.hasType "string" "type" p) := by
    rw [show left = Dictionary.removeWhere _ _ from rfl, Dictionary.params_removeWhere,
      Dictionary.oneString, Dictionary.params_ask, params_dictionary]
  have put : Puts (interpret true (.makeNamedMaterial name params) loc)
      ⟨"MakeNamedMaterial " ++ quoted name, ([type] ++ left.params).map Param.text⟩ := by
    intro o
    have run := run_namedMaterialRule loc misses
    have result := congrArg Outcome.result run
    have applied := Action.run_runOn_of_ok refusal WriteNotice.message o result
    rw [run] at applied
    exact .after_messages applied (puts_entity _ [type] left o)
  rw [others] at put
  exact .of_puts put (puts_plainEntity _ _)

/-- Step: an upgrading writer does the same as a plain one for a directive that is out of reach. -/
theorem alike_interpret (one : ((1 : α) == 1) = true) {d : Directive α} (misses : d.OutOfReach)
    (loc : Location α) : Alike (interpret true d loc) (interpret false d.typeFirst loc) := by
  cases d with
  | camera name params => exact alike_renamedEntity (idle_camera misses.1)
  | film name params =>
    have same : filmName name = name := if_neg misses
    exact .of_run_eq fun o => by rw [interpret, if_pos rfl, same]; rfl
  | sampler name params =>
    have same : samplerName name = name := by
      have others : name ∉ ["lowdiscrepancy", "02sequence", "maxmindist"] := misses
      simp only [List.mem_cons, not_or] at others
      rw [samplerName, if_neg (by simp [others]), if_neg others.2.2.1]
    exact .of_run_eq fun o => by rw [interpret, if_pos rfl, same]; rfl
  | pixelFilter name params =>
    exact alike_revisedEntity (idle_pixelFilter misses.1 (avoids_dictionary.2 misses.2))
  | integrator name params =>
    exact alike_renamedEntity (idle_integrator misses.1 (avoids_dictionary.2 misses.2))
  | texture name kind implementation params =>
    obtain ⟨kindStays, notScale, misses⟩ := misses
    have same : textureKindName kind = kind := if_neg kindStays
    have written : interpret true (.texture name kind implementation params) loc =
        revisedEntity true (textureHeader name kind implementation) params
          (Upgrade.texture implementation) := by
      rw [interpret, writeTexture, if_pos rfl, if_neg notScale, same]
      rfl
    rw [written]
    exact alike_revisedEntity (idle_texture misses.1)
  | material name params =>
    exact alike_renamedEntity (idle_material misses.1 (avoids_dictionary.2 misses.2))
  | makeNamedMaterial name params => exact alike_namedMaterial misses
  | lightSource name params =>
    exact alike_revisedEntity (idle_light one misses.1 (avoids_dictionary.2 misses.2))
  | areaLightSource name params =>
    exact alike_renamedEntity (idle_areaLight one misses.1 (avoids_dictionary.2 misses.2))
  | shape name params =>
    exact alike_revisedEntity (idle_shape misses.1 (avoids_dictionary.2 misses.2))
  | _ => exact .refl

/-! ## Runs -/

/-- The run of a plain writer that stands beside a run of an upgrading one. -/
def typesFirst (ds : List (LocatedDirective α)) : List (LocatedDirective α) :=
  ds.map fun d => ⟨d.directive.typeFirst, d.loc⟩

/-- For directives out of reach, an upgrading writer goes through the same scopes as a plain one and
puts out the same text. -/
theorem alike_run (one : ((1 : α) == 1) = true) {ds : List (LocatedDirective α)}
    (misses : ∀ d ∈ ds, d.directive.OutOfReach) (o : OpenScopes α) :
    after true o ds = after false o (typesFirst ds) ∧
      textOf (noticesOf true o ds) = textOf (noticesOf false o (typesFirst ds)) := by
  induction ds generalizing o with
  | nil => exact ⟨rfl, rfl⟩
  | cons d rest ih =>
    obtain ⟨first, others⟩ := List.forall_mem_cons.1 misses
    obtain ⟨-, scopes, text⟩ := alike_interpret one first d.loc o
    have step : next true o d = next false o ⟨d.directive.typeFirst, d.loc⟩ := scopes
    obtain ⟨later, laterText⟩ := ih others (next true o d)
    rw [step] at later laterText
    refine ⟨?_, ?_⟩
    · rw [after_cons, step, later]
      rfl
    · rw [noticesOf, textOf_append, step, laterText]
      exact (congrArg (· ++ _) text).trans (textOf_append _ _).symm

/-- An upgrade is conservative. What a rule leaves of a dictionary are the parameters that were
there, in their order, without some of those that the rule edits, and with "Kd" under a present name.
For directives that no rule has anything to do with, an upgrading writer puts out the same text as a
plain one, if the types of named materials are put in front. -/
theorem upgrading_is_conservative (one : ((1 : α) == 1) = true) :
    (∀ (s : Subject) (name : String) (loc : Location α) (d : Dictionary α) (u : Upgraded α),
      ((s.rule name loc).run d).result = .ok u →
        Contents.Trimmed s.editedNames d.contents ((s.rule name loc).run d).state.contents) ∧
    ∀ (ds : List (LocatedDirective α)), (∀ d ∈ ds, d.directive.OutOfReach) → ∀ o : OpenScopes α,
      after true o ds = after false o (typesFirst ds) ∧
        textOf (noticesOf true o ds) = textOf (noticesOf false o (typesFirst ds)) := by
  refine ⟨fun s name loc d u finished => ?_, fun ds misses o => alike_run one misses o⟩
  exact (revised_rule s name loc d rfl u finished).trimmed

/-- Control: a camera that loses a parameter, and a named material that keeps its parameters. -/
theorem upgrading_is_conservative_camera_and_material :
    let weighting : Param Float := ⟨"bool", "simpleweighting", .unknown, [], [], [true], false, none⟩
    let aperture : Param Float := ⟨"float", "aperturediameter", .unknown, [2], [], [], false, none⟩
    let metal : Param Float := ⟨"spectrum", "k", .unknown, [], ["metal-Cu-k"], [], false, none⟩
    let type : Param Float := ⟨"string", "type", .unknown, [], ["conductor"], [], false, none⟩
    let d := dictionary [weighting, aperture]
    let camera := Subject.camera.rule "realistic" .unknown
    let copper : LocatedDirective Float := ⟨.makeNamedMaterial "copper" [metal, type], .unknown⟩
    (camera.run d).result = .ok ⟨"realistic", []⟩ ∧
      Contents.Trimmed ["simpleweighting"] d.contents (camera.run d).state.contents ∧
      copper.directive.OutOfReach ∧
      textOf (noticesOf true .none [copper]) =
        "MakeNamedMaterial \"copper\"\n    \"string type\" [ \"conductor\" ]\n    \"spectrum k\" [ \"metal-Cu-k\" ]\n" := by
  intro weighting aperture metal type d camera copper
  obtain ⟨trims, runs⟩ := upgrading_is_conservative (α := Float) (by decide +kernel)
  have finished : (camera.run d).result = .ok ⟨"realistic", []⟩ := rfl
  have misses : copper.directive.OutOfReach := ⟨by decide, by decide⟩
  obtain ⟨-, text⟩ := runs [copper] (by simpa using misses) .none
  exact ⟨finished, trims .camera _ _ _ _ finished, misses, text.trans (by decide +kernel)⟩

end Writer

end SceneScript
