import SceneScript.Upgrade.Rule

/-!
# Upgrades of shapes

Meshes need no list of indices for a single face, their texture coordinates are points, and some
parameters have new names.
-/

set_option autoImplicit false

namespace SceneScript.Upgrade

open Rule

variable {α : Type} [Scalar α]

/-- Whether the numbers are `from`, `from + 1`, … in order. -/
def countsFrom (start : Nat) : List α → Bool
  | [] => true
  | x :: rest => x == Scalar.ofNat start && countsFrom (start + 1) rest

/-- The number of corners of the face for which a mesh of the given kind needs no indices. -/
def loneFaceCorners (name : String) : Nat :=
  if name = "trianglemesh" then 3 else if name = "bilinearmesh" then 4 else 0

/-- Drops the indices of a mesh that is a single face with its corners in order. -/
def loneFace (corners : Nat) : Rule α Unit := do
  let indices ← look (Dictionary.ints "indices")
  if indices.length = corners then
    let points ← look (Dictionary.points3 "P")
    if points.length = corners && countsFrom 0 indices then remove "integer" "indices"

/-- The levels of a subdivision surface. -/
def subdivisionLevels : Rule α (List (Param α)) := do
  let levels ← look (Dictionary.ints "nlevels")
  match levels with
  | [] => return []
  | n :: _ => do
    remove "integer" "nlevels"
    return [intDefinition "levels" n]

/-- The file of a mesh. -/
def meshFile : Rule α (List (Param α)) := do
  let file ← look (Dictionary.oneString "filename" "")
  if file = "" then return []
  else
    remove "string" "filename"
    return [stringDefinition "plyfile" file]

/-- Texture coordinates given as plain numbers take the place of those found so far. -/
def flatCoordinates (name : String) (found : List (α × α)) : Rule α (List (α × α)) := do
  let flat ← look (Dictionary.floats name)
  if flat.isEmpty then return found
  else
    remove "float" name
    return Dictionary.pairs flat

/-- The texture coordinates of a triangle mesh. -/
def coordinates : Rule α (List (Param α)) := do
  let points ← look (Dictionary.points2 "st")
  let found ←
    if !points.isEmpty then do
      remove "point2" "st"
      pure points
    else do
      let uv ← flatCoordinates "uv" []
      flatCoordinates "st" uv
  if found.isEmpty then return []
  else
    return [.define "point2" "uv" (found.flatMap (fun p => [.number p.1, .number p.2]))]

/-- Brings a shape up to date. -/
def shape (name : String) : Rule α (List (Param α)) := do
  if loneFaceCorners name ≠ 0 then loneFace (loneFaceCorners name)
  let levels ← if name = "loopsubdiv" then subdivisionLevels else pure []
  if name = "trianglemesh" || name = "plymesh" then remove "bool" "discarddegenerateUVs"
  let file ← if name = "plymesh" then meshFile else pure []
  let uv ← if name = "trianglemesh" then coordinates else pure []
  let bump ← bumpMap
  rename "Kd" "reflectance"
  return levels ++ file ++ uv ++ bump

end SceneScript.Upgrade
