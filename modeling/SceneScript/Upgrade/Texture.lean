import SceneScript.Upgrade.Rule

/-!
# Upgrades of textures

Image textures have new names for their file and its encoding. A texture that scales another one
used to multiply two operands; it now takes a texture and a number, so for color textures one
operand must be a color with three equal components.
-/

set_option autoImplicit false

namespace SceneScript.Upgrade

open Rule

variable {α : Type} [Scalar α]

/-- The present name of a texture type. -/
def textureKindName (type : String) : String :=
  if type = "color" then "spectrum" else type

/-- Whether an image is filtered along mip levels is now the choice of a filter. -/
def imageFilter : Rule α (List (Param α)) := do
  let trilinear ← look (Dictionary.bools "trilinear")
  match trilinear with
  | [on] => do
    remove "bool" "trilinear"
    return [stringDefinition "filter" (if on then "trilinear" else "bilinear")]
  | _ => return []

/-- The file of an image. -/
def imageFile : Rule α (List (Param α)) := do
  let file ← look (Dictionary.oneString "filename" "")
  if file = "" then return []
  else
    remove "string" "filename"
    return [stringDefinition "imagefile" file]

/-- The gamma of an image, a number or a truth value, is now its encoding. -/
def imageEncoding : Rule α (List (Param α)) := do
  let gamma ← look (Dictionary.oneFloat "gamma" 0)
  if gamma != 0 then
    remove "float" "gamma"
    return [stringDefinition "encoding" ("gamma " ++ Scalar.text gamma)]
  else
    let flag ← look (Dictionary.bools "gamma")
    match flag with
    | [on] => do
      remove "bool" "gamma"
      return [stringDefinition "encoding" (if on then "sRGB" else "linear")]
    | _ => return []

/-- Brings a texture up to date. -/
def texture (implementation : String) : Rule α (List (Param α)) := do
  let filter ← if implementation = "imagemap" then imageFilter else pure []
  if implementation = "imagemap" || implementation = "ptex" then
    let file ← imageFile
    let encoding ← imageEncoding
    return filter ++ file ++ encoding
  else return filter

/-! ## Scaled textures -/

/-- Renames the operands of a scaled float texture. -/
def renameOperand (p : Param α) : Param α :=
  if p.name = "tex1" then { p with name := "tex" }
  else if p.name = "tex2" then { p with name := "scale" }
  else p

/-- Which operands of a scaled texture were met. -/
structure OperandsMet where
  color : Bool
  texture : Bool
deriving DecidableEq, Repr

/-- The number that a color operand scales by: its three components must be equal. -/
def colorFactor (p : Param α) : Except (UpgradeError α) α :=
  match p.numbers with
  | [r, g, b] =>
    if r != g || g != b then .error ⟨p.loc, .unevenColorOperand p.name⟩ else .ok r
  | _ => .error ⟨p.loc, .colorOperandCount p.name⟩

/-- One parameter of a scaled texture, with the operands met before and after it. -/
def scaleOperand (sceneName : String) (met : OperandsMet) (p : Param α) :
    Except (UpgradeError α) (Param α × OperandsMet) :=
  if p.name ≠ "tex1" ∧ p.name ≠ "tex2" then .ok (p, met)
  else if modernType p.type = "rgb" then
    if met.color then .error ⟨p.loc, .twoColorOperands sceneName⟩
    else
      match colorFactor p with
      | .error e => .error e
      | .ok c =>
        .ok ({ p with type := "float", name := "scale", numbers := [c] },
          { met with color := true })
  else if met.texture then .error ⟨p.loc, .twoTextureOperands sceneName⟩
  else .ok ({ p with name := "tex" }, { met with texture := true })

/-- The parameters of a scaled texture in order, after the operands met so far. -/
def scaleOperands (sceneName : String) (met : OperandsMet) :
    List (Param α) → Except (UpgradeError α) (List (Param α))
  | [] => .ok []
  | p :: rest =>
    match scaleOperand sceneName met p with
    | .error e => .error e
    | .ok (p', met') =>
      match scaleOperands sceneName met' rest with
      | .error e => .error e
      | .ok rest' => .ok (p' :: rest')

/-- The parameters of a scaled texture in the present form. -/
def scaledTexture (sceneName type : String) (params : List (Param α)) :
    Except (UpgradeError α) (List (Param α)) :=
  if type = "float" then .ok (params.map renameOperand)
  else scaleOperands sceneName ⟨false, false⟩ params

end SceneScript.Upgrade
