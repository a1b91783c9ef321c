import SceneScript.Upgrade.Material

/-!
# Upgrades of lights

The strength of a light used to be spread over its color, a color named "scale" and a second
number of a blackbody color. It is now the one number "scale". The rules collect the factors on
the way and put their product into that number at the end.
-/

set_option autoImplicit false

namespace SceneScript.Upgrade

open Rule

variable {α : Type} [Scalar α]

/-- Takes a gray color out of the dictionary and multiplies the factor by its component. `none` if
the name is bound to a color that is not gray; without any color the factor stays. -/
def foldColor (name : String) (factor : α) : Rule α (Option α) := do
  let bound ← look (Dictionary.hasColor name)
  if !bound then return some factor
  else
    let color ← look (Dictionary.oneRGB name)
    match color with
    | none => return none
    | some c =>
      if isGray c then do
        removeColor name
        return some (factor * c.r)
      else return none

/-- Where the last parameter of a name stands, or else the directive. -/
def placeOf (name : String) (loc : Location α) : Rule α (Location α) := do
  let d ← Action.get
  return (d.locationOf? name).getD loc

/-- Takes a gray color out of the dictionary, or refuses the light. -/
def foldOrRefuse (name : String) (loc : Location α) (fault : UpgradeFault) (factor : α) :
    Rule α α := do
  let folded ← foldColor name factor
  match folded with
  | some f => return f
  | none => do
    let place ← placeOf name loc
    refuse place fault

/-- The second number of a blackbody color is a factor, as is the float "scale" beside it. -/
def blackbodyColor (name : String) (factor : α) : Rule α (List (Param α) × α) := do
  let values ← look (Dictionary.blackbody name)
  match values with
  | temperature :: strength :: _ => do
    let scale ← look (Dictionary.oneFloat "scale" 1)
    remove "float" "scale"
    removeColor name
    return ([.define "blackbody" name [.number temperature]], factor * (scale * strength))
  | _ => return ([], factor)

/-- The blackbody colors of a light. -/
def blackbodyColors (factor : α) : Rule α (List (Param α) × α) := do
  let (l, factor) ← blackbodyColor "L" factor
  let (i, factor) ← blackbodyColor "I" factor
  return (l ++ i, factor)

/-- The image of a light. -/
def mapFile : Rule α (List (Param α)) := do
  let file ← look (Dictionary.oneString "mapname" "")
  if file = "" then return []
  else
    remove "string" "mapname"
    return [stringDefinition "imagefile" file]

/-- The number "scale" with the collected factor; a factor of one changes nothing. -/
def scaleWith (factor : α) : Rule α (List (Param α)) := do
  if factor == 1 then return []
  else
    let scale ← look (Dictionary.oneFloat "scale" 1)
    remove "float" "scale"
    return [floatDefinition "scale" (factor * scale)]

/-- What a light emits beside its image must be a factor: for an infinite light with an image, and
for a projection light without one. -/
def mapColor (name : String) (loc : Location α) (factor : α) : Rule α α := do
  let file ← look (Dictionary.oneString "mapname" "")
  if file ≠ "" then
    if name = "infinite" then foldOrRefuse "L" loc .coloredInfiniteMap factor else return factor
  else
    if name = "projection" then foldOrRefuse "I" loc .coloredProjectionMap factor
    else return factor

/-- Brings a light up to date. -/
def light (name : String) (loc : Location α) : Rule α (List (Param α)) := do
  let factor ← foldOrRefuse "scale" loc .coloredScale 1
  let (colors, factor) ← blackbodyColors factor
  remove "integer" "nsamples"
  let factor ← mapColor name loc factor
  let file ← mapFile
  let scale ← scaleWith factor
  return colors ++ file ++ scale

/-- Brings an area light up to date. -/
def areaLight (name : String) (loc : Location α) : Rule α (Upgraded α) := do
  let factor ← foldOrRefuse "scale" loc .coloredScale 1
  let (colors, factor) ← blackbodyColors factor
  remove "integer" "nsamples"
  let scale ← scaleWith factor
  return ⟨if name = "area" then "diffuse" else name, colors ++ scale⟩

end SceneScript.Upgrade
