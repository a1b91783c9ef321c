import SceneScript.Upgrade.Rule

/-!
# Upgrades of materials

Old materials are expressed by present ones. A color that the present material has no use for is
dropped; unless it had the value that makes no difference, a message says so.
-/

set_option autoImplicit false

namespace SceneScript.Upgrade

open Rule

variable {α : Type} [Scalar α]

/-- Whether a color has three components equal to a number. -/
def isConstant (c : RGB α) (x : α) : Bool :=
  c.r == x && c.g == x && c.b == x

/-- Whether the three components of a color are equal. -/
def isGray (c : RGB α) : Bool :=
  c.r == c.g && c.g == c.b

/-- The index of refraction of glass is called "eta". -/
def refraction (name : String) (loc : Location α) : Rule α (List (Param α)) := do
  if name ≠ "glass" ∧ name ≠ "uber" then return []
  else
    let texture ← look (Dictionary.texture "index")
    if texture ≠ "" then
      let eta ← look (Dictionary.texture "eta")
      if eta ≠ "" then refuse loc (.indexAndEta name)
      else
        remove "texture" "index"
        return [.define "texture" "eta" [.string texture]]
    else
      let index ← look (Dictionary.floats "index")
      match index with
      | [] => return []
      | [x] => do
        let eta ← look (Dictionary.floats "eta")
        if !eta.isEmpty then refuse loc (.indexAndEta name)
        else
          remove "float" "index"
          return [floatDefinition "eta" x]
      | _ => refuse loc .severalIndices

/-- Drops a color, or a texture in its place, that the material named `target` has no use for.
Finishes with whether nothing was lost: the color was the neutral one. -/
def dropColor (loc : Location α) (target name : String) (neutral : α) : Rule α Bool := do
  let color ← look (Dictionary.oneRGB name)
  let harmless := color.any (fun c => isConstant c neutral)
  if !harmless then
    let bound ← look (Dictionary.hasColor name)
    if bound then
      let d ← Action.get
      report .warning loc
        ("Parameter is being removed when converting to \"" ++ target ++ "\" material: "
          ++ d.definition name)
  removeColor name
  remove "texture" name
  return harmless

/-- A material may be see-through no longer by its opacity. -/
def opacity (loc : Location α) : Rule α Unit := do
  let texture ← look (Dictionary.texture "opacity")
  if texture ≠ "" then refuse loc .texturedOpacity
  else
    let bound ← look (Dictionary.hasColor "opacity")
    if bound then
      let color ← look (Dictionary.oneRGB "opacity")
      if color.any (fun c => isConstant c 1) then removeColor "opacity"
      else refuse loc .coloredOpacity

/-- A glossy coat over a diffuse base; without a gloss the base is all there is, and `coat` are
the parameters that go with the gloss. -/
def coated (loc : Location α) (coat : List String) : Rule α String := do
  let matte ← dropColor loc "coateddiffuse" "Ks" 0
  if matte then
    Action.forEach (remove "float") coat
    return "diffuse"
  else return "coateddiffuse"

/-- The catch-all material. -/
def uber (loc : Location α) : Rule α String := do
  let name ← coated loc ["eta", "roughness"]
  let _ ← dropColor loc name "Kr" 0
  let _ ← dropColor loc name "Kt" 0
  rename "Kd" "reflectance"
  opacity loc
  return name

/-- The amount of a mixture is a number. -/
def mixAmount (loc : Location α) : Rule α (List (Param α)) := do
  let color ← look (Dictionary.oneRGB "amount")
  let definitions ←
    match color with
    | some c =>
      if isGray c then pure [floatDefinition "amount" c.r]
      else do
        let average := (c.r + c.g + c.b) / Scalar.ofNat 3
        report .warning loc
          ("Changing RGB \"amount\" (" ++ Scalar.text c.r ++ ", " ++ Scalar.text c.g ++ ", "
            ++ Scalar.text c.b ++ ") to scalar average " ++ Scalar.text average)
        pure [floatDefinition "amount" average]
    | none => do
      let bound ← look (Dictionary.hasColor "amount")
      let unusable ←
        if bound then pure true
        else do
          let texture ← look (Dictionary.texture "amount")
          pure (decide (texture ≠ ""))
      if unusable then
        let d ← Action.get
        report .error loc
          ("Unable to update non-RGB spectrum \"amount\" to a scalar: " ++ d.definition "amount")
      pure []
  removeColor "amount"
  return definitions

/-- A diffuse base with a glossy coat that is never missing. -/
def substrate (loc : Location α) : Rule α String := do
  let _ ← dropColor loc "coateddiffuse" "Ks" 1
  rename "Kd" "reflectance"
  return "coateddiffuse"

/-- Glass reflects and transmits all light. -/
def glass (loc : Location α) : Rule α String := do
  let _ ← dropColor loc "dielectric" "Kr" 1
  let _ ← dropColor loc "dielectric" "Kt" 1
  return "dielectric"

/-- Plastic is a coated base. -/
def plastic (loc : Location α) : Rule α String := do
  let name ← coated loc ["roughness", "eta"]
  rename "Kd" "reflectance"
  return name

/-- Metal reflects all light. -/
def metal (loc : Location α) : Rule α String := do
  let _ ← dropColor loc "conductor" "Kr" 1
  return "conductor"

/-- A thin surface that scatters light to both sides. -/
def translucent (loc : Location α) : Rule α String := do
  rename "Kd" "transmittance"
  let _ ← dropColor loc "diffusetransmission" "reflect" 0
  let _ ← dropColor loc "diffusetransmission" "transmit" 1
  let _ ← dropColor loc "diffusetransmission" "Ks" 0
  remove "float" "roughness"
  return "diffusetransmission"

/-- A mirror is smooth silver. -/
def mirrorDefinitions : List (Param α) :=
  [floatDefinition "roughness" 0,
   .define "spectrum" "eta" [.string "metal-Ag-eta"],
   .define "spectrum" "k" [.string "metal-Ag-k"]]

/-- The part of the upgrade that depends on the material. -/
def materialBody (name : String) (loc : Location α) : Rule α (Upgraded α) :=
  match name with
  | "uber" => do return ⟨← uber loc, []⟩
  | "mix" => do return ⟨name, ← mixAmount loc⟩
  | "substrate" => do return ⟨← substrate loc, []⟩
  | "glass" => do return ⟨← glass loc, []⟩
  | "plastic" => do return ⟨← plastic loc, []⟩
  | "fourier" => do
    report .warning loc
      "\"fourier\" material is no longer supported. (But there is \"measured\"!)"
    return ⟨name, []⟩
  | "kdsubsurface" => do
    rename "Kd" "reflectance"
    return ⟨"subsurface", []⟩
  | "matte" => do
    rename "Kd" "reflectance"
    return ⟨"diffuse", []⟩
  | "metal" => do return ⟨← metal loc, []⟩
  | "translucent" => do return ⟨← translucent loc, []⟩
  | "mirror" => do
    let _ ← dropColor loc "conductor" "Kr" 0
    return ⟨"conductor", mirrorDefinitions⟩
  | _ => return ⟨name, []⟩

/-- Brings a material up to date. -/
def material (name : String) (loc : Location α) : Rule α (Upgraded α) := do
  let eta ← refraction name loc
  let bump ← bumpMap
  let body ← materialBody name loc
  return ⟨body.name, eta ++ bump ++ body.definitions⟩

end SceneScript.Upgrade
