import SceneScript.Geometry.Matrix
import SceneScript.Geometry.NumberHash

/-!
# Transforms

A transform is an affine or projective map together with its inverse. The inverse is not computed
anew at each step: every constructor knows the inverse of what it builds, and a composition
composes the inverses in the opposite order. A matrix without an inverse gets one whose entries
are not numbers.

Two transforms are the same (`Transform.same`) when their forward matrices are; the hash agrees
with that.
-/

set_option autoImplicit false

namespace SceneScript

/-- A map of space and its inverse. -/
structure Transform (α : Type) where
  forward : Mat4 α
  backward : Mat4 α

/-- A list of matrix entries has another length than sixteen. -/
structure EntryCountError where
  count : Nat
deriving DecidableEq, Repr

/-- The wording of a wrong number of entries. -/
def EntryCountError.wording (e : EntryCountError) : String :=
  "Transform requires 16 values, got " ++ toString e.count

namespace Transform

variable {α : Type}

/-- The inverse transform. -/
def inverse (t : Transform α) : Transform α :=
  ⟨t.backward, t.forward⟩

/-- The entries of the forward matrix, column by column. -/
def toList (t : Transform α) : List α :=
  t.forward.toList

variable [Scalar α]

/-- The transform that moves nothing. -/
def identity : Transform α :=
  ⟨.identity, .identity⟩

/-- The transform of a matrix. -/
def ofMatrix (m : Mat4 α) : Transform α :=
  ⟨m, m.inverseOrNaN⟩

/-- The transform of sixteen matrix entries, column by column. -/
def ofColumns (values : List α) : Except EntryCountError (Transform α) :=
  match Mat4.ofList? values with
  | some m => .ok (ofMatrix m)
  | none => .error ⟨values.length⟩

/-- The move by a vector. -/
def translate (d : Vec3 α) : Transform α :=
  ⟨.translation d, .translation d.neg⟩

/-- The stretching of the three axes. -/
def scale (s : Vec3 α) : Transform α :=
  ⟨.scaling s, .scaling ⟨1 / s.x, 1 / s.y, 1 / s.z⟩⟩

/-- An angle in radians. -/
def radians (degrees : α) : α :=
  degrees * Scalar.pi / Scalar.ofNat 180

/-- The rotation by an angle in degrees about an axis; the identity if the axis has no direction.
The inverse of a rotation is its transpose. -/
def rotate (degrees : α) (axis : Vec3 α) : Transform α :=
  match Mat4.rotation? (radians degrees) axis with
  | some m => ⟨m, m.transpose⟩
  | none => identity

/-- The transform from the world to a camera that stands at `eye` and looks at `look`; `none` if
it would look along `up`. -/
def lookAt? (eye look up : Vec3 α) : Option (Transform α) :=
  let direction := (look.sub eye).normalize
  let right := up.normalize.cross direction
  if Scalar.less 0 right.length then
    let right := right.normalize
    let worldFromCamera : Mat4 α :=
      ⟨right.withW 0, (direction.cross right).withW 0, direction.withW 0, eye.withW 1⟩
    some ⟨worldFromCamera.inverseOrNaN, worldFromCamera⟩
  else none

/-- The transform that applies `b` and then `a`. -/
def compose (a b : Transform α) : Transform α :=
  ⟨a.forward.mul b.forward, b.backward.mul a.backward⟩

/-- The image of a point, divided by its weight unless that is one. -/
def mapPoint (t : Transform α) (p : Vec3 α) : Vec3 α :=
  let q := t.forward.apply (p.withW 1)
  if q.w == 1 then ⟨q.x, q.y, q.z⟩ else ⟨q.x / q.w, q.y / q.w, q.z / q.w⟩

/-- Whether two transforms have the same forward matrix. -/
def same (a b : Transform α) : Bool :=
  a.forward.same b.forward

/-- Whether the forward matrix is that of the identity. -/
def isIdentity (t : Transform α) : Bool :=
  t.same identity

/-- The tolerance of an approximate comparison for which none is given: a billionth. -/
def defaultTolerance : α := Scalar.ratio 1 1000000000

/-- Whether no two entries of the forward matrices differ by more than the tolerance. -/
def approximates (a b : Transform α) (tolerance : α) : Bool :=
  (a.toList.zip b.toList).all (fun p => !Scalar.less tolerance (Scalar.abs (p.1 - p.2)))

/-- The hash of the forward matrix. -/
def hash (t : Transform α) : UInt32 :=
  NumberHash.hash t.toList

end Transform

end SceneScript
