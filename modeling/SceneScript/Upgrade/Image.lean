import SceneScript.Upgrade.Rule

/-!
# Upgrades of what concerns the whole image

Pixel filters, films, samplers, integrators and cameras.
-/

set_option autoImplicit false

namespace SceneScript.Upgrade

open Rule

variable {α : Type} [Scalar α]

/-- The width of a filter along one axis is called its radius. -/
def filterRadius (before after : String) : Rule α (List (Param α)) := do
  let width ← look (Dictionary.floats before)
  if width.length = 1 then
    remove "float" before
    return [.define "float" after (width.map .number)]
  else return []

/-- The falloff of a Gaussian filter is given by its standard deviation. -/
def filterFalloff : Rule α (List (Param α)) := do
  let falloff ← look (Dictionary.floats "alpha")
  match falloff with
  | [a] => do
    remove "float" "alpha"
    return [floatDefinition "sigma" (1 / Scalar.sqrt (Scalar.ofNat 2 * a))]
  | _ => return []

/-- Brings a pixel filter up to date. -/
def pixelFilter (name : String) : Rule α (List (Param α)) := do
  let x ← filterRadius "xwidth" "xradius"
  let y ← filterRadius "ywidth" "yradius"
  let falloff ← if name = "gaussian" then filterFalloff else pure []
  return x ++ y ++ falloff

/-- The present name of a film. -/
def filmName (name : String) : String :=
  if name = "image" then "rgb" else name

/-- The present name of a sampler. -/
def samplerName (name : String) : String :=
  if name = "lowdiscrepancy" || name = "02sequence" then "paddedsobol"
  else if name = "maxmindist" then "pmj02bn"
  else name

/-- Photon mapping counts its iterations under a shorter name, and writes no images on the way. -/
def photonIterations : Rule α (List (Param α)) := do
  remove "integer" "imagewritefrequency"
  let iterations ← look (Dictionary.ints "numiterations")
  match iterations with
  | [] => return []
  | n :: _ => do
    remove "integer" "numiterations"
    return [intDefinition "iterations" n]

/-- Lights are no longer chosen by a spatial grid but by a bounding hierarchy. -/
def lightStrategy : Rule α (List (Param α)) := do
  let strategy ← look (Dictionary.oneString "lightsamplestrategy" "")
  if strategy = "spatial" then
    remove "string" "lightsamplestrategy"
    return [stringDefinition "lightsamplestrategy" "bvh"]
  else return []

/-- Brings an integrator up to date; direct lighting is path tracing to depth one. -/
def integrator (name : String) : Rule α (Upgraded α) := do
  let photons ← if name = "sppm" then photonIterations else pure []
  let strategy ← lightStrategy
  if name = "directlighting" then
    return ⟨"path", photons ++ strategy ++ [intDefinition "maxdepth" 1]⟩
  else return ⟨name, photons ++ strategy⟩

/-- Brings a camera up to date; the environment camera is a spherical one. -/
def camera (name : String) : Rule α (Upgraded α) := do
  if name = "environment" then
    return ⟨"spherical", [stringDefinition "mapping" "equirect"]⟩
  else
    if name = "realistic" then remove "bool" "simpleweighting"
    return ⟨name, []⟩

end SceneScript.Upgrade
