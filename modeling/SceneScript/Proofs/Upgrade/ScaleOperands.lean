import Mathlib.Data.List.Forall2
import SceneScript.Scalar.Double
import SceneScript.Upgrade.Texture

/-!
# The operands of a scaled texture

A texture that scales another one used to multiply "tex1" by "tex2". Now it takes a texture "tex" and
a number "scale". Of the operands of a color texture, a gray color is the number and the other one is
the texture, in either order (`Rescaled`); a float texture keeps both operands and their order
(`Renamed`).

The rule passes over the parameters once and keeps in mind which operands it has met
(`OperandsMet`). One step is accepted exactly if its operand is the first of its kind and, if it is a
color, is gray (`scaleOperand_eq_ok_iff`); by induction a whole list is accepted exactly if it has at
most one operand of each kind that was not met before (`scaleOperands_eq_ok_iff`).
-/

set_option autoImplicit false

namespace SceneScript

namespace Param

variable {α : Type}

/-- The operands go by their names, whatever their types. -/
def isOperand (p : Param α) : Bool :=
  p.name == "tex1" || p.name == "tex2"

/-- An operand that is an rgb color, in either spelling of the type. -/
def isColorOperand (p : Param α) : Bool :=
  p.isOperand && modernType p.type == "rgb"

/-- An operand of any other type. -/
def isTextureOperand (p : Param α) : Bool :=
  p.isOperand && modernType p.type != "rgb"

/-- The number of a parameter that has exactly three numbers, all equal. -/
def gray? [Scalar α] (p : Param α) : Option α :=
  match p.numbers with
  | [r, g, b] => if r == g && g == b then some r else none
  | _ => none

end Param

namespace Upgrade

variable {α : Type} [Scalar α]

/-- What becomes of a parameter of a scaled color texture. -/
inductive Rescaled : Param α → Param α → Prop
  | other {p : Param α} : p.isOperand = false → Rescaled p p
  | color {p : Param α} {c : α} : p.isColorOperand = true → p.gray? = some c →
      Rescaled p { p with type := "float", name := "scale", numbers := [c] }
  | texture {p : Param α} : p.isTextureOperand = true → Rescaled p { p with name := "tex" }

/-- What becomes of a parameter of a scaled float texture. -/
inductive Renamed : Param α → Param α → Prop
  | first {p : Param α} : p.name = "tex1" → Renamed p { p with name := "tex" }
  | second {p : Param α} : p.name = "tex2" → Renamed p { p with name := "scale" }
  | other {p : Param α} : p.isOperand = false → Renamed p p

variable {sceneName : String} {met met' : OperandsMet} {p p' : Param α} {ps ps' : List (Param α)}

/-! ## Kinds of operands -/

section Kinds

omit [Scalar α]

/-- Every operand is of one kind. -/
theorem operand_cases (p : Param α) :
    p.isOperand = false ∨ p.isColorOperand = true ∨ p.isTextureOperand = true := by
  rw [Param.isColorOperand, Param.isTextureOperand, bne]
  cases p.isOperand <;> cases modernType p.type == "rgb" <;> decide

theorem kinds_of_other (other : p.isOperand = false) :
    p.isColorOperand = false ∧ p.isTextureOperand = false := by
  simp [Param.isColorOperand, Param.isTextureOperand, other]

theorem kinds_of_color (color : p.isColorOperand = true) :
    p.isOperand = true ∧ p.isTextureOperand = false := by
  simp only [Param.isColorOperand, Bool.and_eq_true] at color
  simp [Param.isTextureOperand, bne, color]

theorem kinds_of_texture (texture : p.isTextureOperand = true) :
    p.isOperand = true ∧ p.isColorOperand = false := by
  simp only [Param.isTextureOperand, bne, Bool.and_eq_true, Bool.not_eq_true'] at texture
  simp [Param.isColorOperand, texture]

end Kinds

theorem rescaled_iff_of_other (other : p.isOperand = false) : Rescaled p p' ↔ p' = p := by
  constructor
  · intro rescaled
    cases rescaled with
    | other _ => rfl
    | color is => simp [kinds_of_other other] at is
    | texture is => simp [kinds_of_other other] at is
  · rintro rfl
    exact .other other

theorem rescaled_iff_of_color (color : p.isColorOperand = true) :
    Rescaled p p' ↔
      ∃ c, p.gray? = some c ∧ p' = { p with type := "float", name := "scale", numbers := [c] } := by
  constructor
  · intro rescaled
    cases rescaled with
    | other is => simp [kinds_of_color color] at is
    | color _ gray => exact ⟨_, gray, rfl⟩
    | texture is => simp [kinds_of_color color] at is
  · rintro ⟨c, gray, rfl⟩
    exact .color color gray

theorem rescaled_iff_of_texture (texture : p.isTextureOperand = true) :
    Rescaled p p' ↔ p' = { p with name := "tex" } := by
  constructor
  · intro rescaled
    cases rescaled with
    | other is => simp [kinds_of_texture texture] at is
    | color is => simp [kinds_of_texture texture] at is
    | texture _ => rfl
  · rintro rfl
    exact .texture texture

/-! ## One parameter -/

theorem scaleOperand_of_other (other : p.isOperand = false) :
    scaleOperand sceneName met p = .ok (p, met) := by
  have named : p.name ≠ "tex1" ∧ p.name ≠ "tex2" := by simpa [Param.isOperand] using other
  rw [scaleOperand, if_pos named]

theorem scaleOperand_of_color (color : p.isColorOperand = true) :
    scaleOperand sceneName met p =
      if met.color then .error ⟨p.loc, .twoColorOperands sceneName⟩
      else
        (colorFactor p).map fun c =>
          ({ p with type := "float", name := "scale", numbers := [c] }, { met with color := true }) := by
  simp only [Param.isColorOperand, Param.isOperand, Bool.and_eq_true, Bool.or_eq_true,
    beq_iff_eq] at color
  obtain ⟨named, rgb⟩ := color
  rw [scaleOperand, if_neg (by tauto), if_pos rgb]
  cases colorFactor p <;> rfl

theorem scaleOperand_of_texture (texture : p.isTextureOperand = true) :
    scaleOperand sceneName met p =
      if met.texture then .error ⟨p.loc, .twoTextureOperands sceneName⟩
      else .ok ({ p with name := "tex" }, { met with texture := true }) := by
  simp only [Param.isTextureOperand, Param.isOperand, Bool.and_eq_true, Bool.or_eq_true,
    beq_iff_eq, bne_iff_ne] at texture
  obtain ⟨named, rgb⟩ := texture
  rw [scaleOperand, if_neg (by tauto), if_neg rgb]

theorem colorFactor_eq_ok_iff {c : α} : colorFactor p = .ok c ↔ p.gray? = some c := by
  rw [colorFactor, Param.gray?]
  rcases p.numbers with _ | ⟨r, _ | ⟨g, _ | ⟨b, _ | ⟨x, rest⟩⟩⟩⟩
  case cons.cons.cons.nil =>
    dsimp only
    cases first : r == g <;> cases second : g == b <;> simp [bne, first, second]
  all_goals simp

/-- Step: a parameter is accepted if it is no operand, or the first operand of its kind, and a color
must be gray. Afterwards both flags say what was met with it. -/
theorem scaleOperand_eq_ok_iff :
    scaleOperand sceneName met p = .ok (p', met') ↔
      Rescaled p p' ∧
      (p.isColorOperand = true → met.color = false) ∧
      (p.isTextureOperand = true → met.texture = false) ∧
      met' = ⟨met.color || p.isColorOperand, met.texture || p.isTextureOperand⟩ := by
  rcases operand_cases p with other | color | texture
  · obtain ⟨noColor, noTexture⟩ := kinds_of_other other
    rw [scaleOperand_of_other other, rescaled_iff_of_other other, noColor, noTexture]
    simp [@eq_comm _ p', @eq_comm _ met']
  · rw [scaleOperand_of_color color, rescaled_iff_of_color color, color, (kinds_of_color color).2]
    cases unmet : met.color with
    | true => simp
    | false =>
      cases factor : colorFactor p with
      | error e =>
        have colored : ∀ c, p.gray? ≠ some c := by simp [← colorFactor_eq_ok_iff, factor]
        simp [Except.map, colored]
      | ok c => simp [Except.map, colorFactor_eq_ok_iff.1 factor, @eq_comm _ p', @eq_comm _ met']
  · rw [scaleOperand_of_texture texture, rescaled_iff_of_texture texture, texture,
      (kinds_of_texture texture).2]
    cases unmet : met.texture with
    | true => simp
    | false => simp [@eq_comm _ p', @eq_comm _ met']

/-- A parameter that is refused is an operand, and the refusal is at its place. -/
theorem loc_of_scaleOperand_error {e : UpgradeError α}
    (refused : scaleOperand sceneName met p = .error e) : p.isOperand = true ∧ e.loc = p.loc := by
  rcases operand_cases p with other | color | texture
  · rw [scaleOperand_of_other other] at refused
    cases refused
  · refine ⟨(kinds_of_color color).1, ?_⟩
    rw [scaleOperand_of_color color, colorFactor] at refused
    split at refused
    · cases refused
      rfl
    · split at refused
      · split at refused
        · cases refused
          rfl
        · cases refused
      · cases refused
        rfl
  · refine ⟨(kinds_of_texture texture).1, ?_⟩
    rw [scaleOperand_of_texture texture] at refused
    split at refused
    · cases refused
      rfl
    · cases refused

/-! ## All parameters -/

theorem scaleOperands_cons_eq_ok_iff {p : Param α} :
    scaleOperands sceneName met (p :: ps) = .ok ps' ↔
      ∃ p' met' rest', scaleOperand sceneName met p = .ok (p', met') ∧
        scaleOperands sceneName met' ps = .ok rest' ∧ ps' = p' :: rest' := by
  rw [scaleOperands]
  cases first : scaleOperand sceneName met p with
  | error e => simp
  | ok found =>
    obtain ⟨p', met'⟩ := found
    cases others : scaleOperands sceneName met' ps with
    | error e => simp [others]
    | ok rest' => simp [others, eq_comm]

/-- With the next parameter there is at most one of a kind if it is not a second one, and the others
keep to what the flag says then. -/
theorem atMostOne_cons {count : Nat} {met is : Bool} :
    count + (if is then 1 else 0) + met.toNat ≤ 1 ↔
      (is = true → met = false) ∧ count + (met || is).toNat ≤ 1 := by
  cases met <;> cases is <;> simp

/-- Run: a list is accepted if every parameter has become what it should, and of each kind there is
at most one operand, or none if one was met before. -/
theorem scaleOperands_eq_ok_iff :
    scaleOperands sceneName met ps = .ok ps' ↔
      List.Forall₂ Rescaled ps ps' ∧
      ps.countP Param.isColorOperand + met.color.toNat ≤ 1 ∧
      ps.countP Param.isTextureOperand + met.texture.toNat ≤ 1 := by
  -- the induction is on the parameters; the flags are those that the step hands on
  induction ps generalizing met ps' with
  | nil =>
    have flag (b : Bool) : b.toNat ≤ 1 := Bool.toNat_le b
    rw [scaleOperands, List.forall₂_nil_left_iff]
    simp [flag, eq_comm]
  | cons p rest ih =>
    rw [scaleOperands_cons_eq_ok_iff, List.forall₂_cons_left_iff, List.countP_cons,
      List.countP_cons, atMostOne_cons, atMostOne_cons]
    simp only [scaleOperand_eq_ok_iff, ih]
    constructor
    · rintro ⟨p', met', rest', ⟨rescaled, color, texture, rfl⟩, ⟨others, colors, textures⟩, rfl⟩
      exact ⟨⟨p', rest', rescaled, others, rfl⟩, ⟨color, colors⟩, texture, textures⟩
    · rintro ⟨⟨p', rest', rescaled, others, rfl⟩, ⟨color, colors⟩, texture, textures⟩
      exact ⟨p', _, rest', ⟨rescaled, color, texture, rfl⟩, ⟨others, colors, textures⟩, rfl⟩

/-- A list that is refused is refused at the place of one of its operands. -/
theorem loc_of_scaleOperands_error {e : UpgradeError α}
    (refused : scaleOperands sceneName met ps = .error e) :
    ∃ p ∈ ps, p.isOperand = true ∧ e.loc = p.loc := by
  induction ps generalizing met with
  | nil => cases refused
  | cons p rest ih =>
    rw [scaleOperands] at refused
    cases first : scaleOperand sceneName met p with
    | error e' =>
      rw [first] at refused
      cases refused
      exact ⟨p, List.mem_cons_self, loc_of_scaleOperand_error first⟩
    | ok found =>
      rw [first] at refused
      cases others : scaleOperands sceneName found.2 rest with
      | error e' =>
        simp only [others] at refused
        cases refused
        obtain ⟨q, mem, place⟩ := ih others
        exact ⟨q, List.mem_cons_of_mem p mem, place⟩
      | ok rest' => simp [others] at refused

/-- Something can be made of every parameter, except of a color that is not gray. -/
theorem exists_rescaled_iff :
    (∃ ps', List.Forall₂ Rescaled ps ps') ↔
      ∀ p ∈ ps, p.isColorOperand = true → p.gray? ≠ none := by
  have one (p : Param α) :
      (∃ p', Rescaled p p') ↔ (p.isColorOperand = true → p.gray? ≠ none) := by
    rcases operand_cases p with other | color | texture
    · exact iff_of_true ⟨p, .other other⟩ (by simp [kinds_of_other other])
    · rw [Option.ne_none_iff_exists']
      simp [rescaled_iff_of_color color, color]
    · exact iff_of_true ⟨_, .texture texture⟩ (by simp [kinds_of_texture texture])
  induction ps with
  | nil => exact iff_of_true ⟨[], .nil⟩ (by simp)
  | cons p rest ih =>
    rw [List.forall_mem_cons]
    refine Iff.trans ?_ (and_congr (one p) ih)
    constructor
    · rintro ⟨_, _ | ⟨rescaled, others⟩⟩
      exact ⟨⟨_, rescaled⟩, ⟨_, others⟩⟩
    · rintro ⟨⟨p', rescaled⟩, rest', others⟩
      exact ⟨p' :: rest', .cons rescaled others⟩

/-! ## Scaled textures -/

omit [Scalar α] in
theorem renamed_renameOperand (p : Param α) : Renamed p (renameOperand p) := by
  rw [renameOperand]
  split
  · exact .first ‹_›
  · split
    · exact .second ‹_›
    · exact .other (by simp_all [Param.isOperand])

/-- A scaled color texture is refused if and only if two of its operands are rgb colors, or two are
not, or an rgb color among them has not exactly three equal numbers. Otherwise it keeps its
parameters in order: the color has become the float "scale" with its number, the other operand is
called "tex", and nothing else has changed. A scaled float texture is never refused, and has only its
operands renamed. -/
theorem operands_are_rescaled (sceneName type : String) (params : List (Param α)) :
    (type ≠ "float" →
      ((∃ e, scaledTexture sceneName type params = .error e) ↔
        2 ≤ params.countP Param.isColorOperand ∨ 2 ≤ params.countP Param.isTextureOperand ∨
          ∃ p ∈ params, p.isColorOperand = true ∧ p.gray? = none) ∧
      (∀ e, scaledTexture sceneName type params = .error e →
        ∃ p ∈ params, p.isOperand = true ∧ e.loc = p.loc) ∧
      ∀ params', scaledTexture sceneName type params = .ok params' →
        List.Forall₂ Rescaled params params' ∧
          params.countP Param.isColorOperand ≤ 1 ∧ params.countP Param.isTextureOperand ≤ 1) ∧
    (type = "float" → ∃ params', scaledTexture sceneName type params = .ok params' ∧
      List.Forall₂ Renamed params params') := by
  constructor
  · intro color
    rw [scaledTexture, if_neg color]
    have accepted (params' : List (Param α)) :
        scaleOperands sceneName ⟨false, false⟩ params = .ok params' ↔ _ := scaleOperands_eq_ok_iff
    simp only [Bool.toNat_false, Nat.add_zero] at accepted
    refine ⟨?_, fun e => loc_of_scaleOperands_error, fun params' => (accepted params').1⟩
    have accepts : (∃ params', scaleOperands sceneName ⟨false, false⟩ params = .ok params') ↔
        (∀ p ∈ params, p.isColorOperand = true → p.gray? ≠ none) ∧
          params.countP Param.isColorOperand ≤ 1 ∧ params.countP Param.isTextureOperand ≤ 1 := by
      simp only [accepted, exists_and_right, exists_rescaled_iff]
    have refuses : (∃ e, scaleOperands sceneName ⟨false, false⟩ params = .error e) ↔
        ¬ ∃ params', scaleOperands sceneName ⟨false, false⟩ params = .ok params' := by
      cases scaleOperands sceneName ⟨false, false⟩ params <;> simp
    rw [refuses, accepts, not_and_or, not_and_or, Nat.not_le, Nat.not_le, or_comm, or_assoc]
    refine or_congr_right (or_congr_right ?_)
    simp
  · rintro rfl
    refine ⟨_, if_pos rfl, ?_⟩
    rw [List.forall₂_map_right_iff]
    exact List.forall₂_same.2 fun p _ => renamed_renameOperand p

/-- Control: a pattern that is multiplied by a gray color. -/
theorem operands_are_rescaled_checks :
    let checks : Param Float := ⟨"texture", "tex1", .unknown, [], ["checks"], [], false, none⟩
    let gray : Param Float := ⟨"color", "tex2", .unknown, [2, 2, 2], [], [], false, none⟩
    let params' : List (Param Float) :=
      [{ checks with name := "tex" }, { gray with type := "float", name := "scale", numbers := [2] }]
    scaledTexture "t" "spectrum" [checks, gray] = .ok params' ∧
      List.Forall₂ Rescaled [checks, gray] params' := by
  intro checks gray params'
  have scaled {α : Type} [Scalar α] (c : α) (same : (c == c) = true) :
      scaledTexture "t" "spectrum" [⟨"texture", "tex1", .unknown, [], ["checks"], [], false, none⟩,
        ⟨"color", "tex2", .unknown, [c, c, c], [], [], false, none⟩] =
      .ok [⟨"texture", "tex", .unknown, [], ["checks"], [], false, none⟩,
        ⟨"float", "scale", .unknown, [c], [], [], false, none⟩] := by
    simp [scaledTexture, scaleOperands, scaleOperand, colorFactor, modernType, bne, same]
  have ok : scaledTexture "t" "spectrum" [checks, gray] = .ok params' := scaled 2 (by decide +kernel)
  obtain ⟨-, -, kept⟩ := (operands_are_rescaled "t" "spectrum" [checks, gray]).1 (by decide)
  exact ⟨ok, (kept params' ok).1⟩

/-! ## The product -/

/-- A factor of the product that a scaled texture stands for. -/
inductive Factor (α : Type) where
  | number (c : α)
  | texture (type : String) (numbers : List α) (strings : List String) (bools : List Bool)

/-- The factor that an operand stands for. -/
def operandFactor? (p : Param α) : Option (Factor α) :=
  if p.isColorOperand then p.gray?.map .number
  else if p.isTextureOperand then some (.texture p.type p.numbers p.strings p.bools)
  else none

/-- The factor that a parameter of a present scaled texture stands for. -/
def presentFactor? (p : Param α) : Option (Factor α) :=
  if p.name = "scale" then p.numbers.head?.map .number
  else if p.name = "tex" then some (.texture p.type p.numbers p.strings p.bools)
  else none

theorem Rescaled.presentFactor?_eq (rescaled : Rescaled p p')
    (unnamed : p.name ≠ "scale" ∧ p.name ≠ "tex") : presentFactor? p' = operandFactor? p := by
  cases rescaled with
  | other other =>
    obtain ⟨noColor, noTexture⟩ := kinds_of_other other
    rw [presentFactor?, if_neg unnamed.1, if_neg unnamed.2, operandFactor?, noColor, noTexture]
    rfl
  | color color gray =>
    rw [operandFactor?, if_pos color, gray]
    rfl
  | texture texture =>
    rw [operandFactor?, (kinds_of_texture texture).2, if_pos texture]
    rfl

/-- A scaled color texture that is accepted stands for the product of the same factors, in the same
order, unless parameters were called by the present names before. -/
theorem factors_of_scaledTexture {type : String} (color : type ≠ "float")
    (unnamed : ∀ p ∈ ps, p.name ≠ "scale" ∧ p.name ≠ "tex")
    (accepted : scaledTexture sceneName type ps = .ok ps') :
    ps'.filterMap presentFactor? = ps.filterMap operandFactor? := by
  rw [scaledTexture, if_neg color, scaleOperands_eq_ok_iff] at accepted
  obtain ⟨rescaled, -⟩ := accepted
  induction rescaled with
  | nil => rfl
  | cons one _ ih =>
    rw [List.forall_mem_cons] at unnamed
    rw [List.filterMap_cons, List.filterMap_cons, one.presentFactor?_eq unnamed.1, ih unnamed.2]

end Upgrade

end SceneScript
