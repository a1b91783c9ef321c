import SceneScript.Geometry.Transform

/-!
# Transforms at two times

The current transform of a scene may differ between the time the shutter opens and the time it
closes. A transform pair holds both, and transform directives change the slots that are active.
-/

set_option autoImplicit false

namespace SceneScript

/-- The two times at which a transform is given. -/
inductive TimeSlot where
  | opening
  | closing
deriving DecidableEq, Repr

/-- The number of a slot. -/
def TimeSlot.index : TimeSlot → Nat
  | opening => 0
  | closing => 1

/-- Which slots transform directives change, as a bit mask: the lowest bit stands for the opening
time and the next one for the closing time. Further bits mean nothing and are kept. -/
structure ActiveSlots where
  mask : Int
deriving DecidableEq, Repr

namespace ActiveSlots

/-- Both slots. -/
def all : ActiveSlots := ⟨3⟩

/-- The opening time only. -/
def openingOnly : ActiveSlots := ⟨1⟩

/-- The closing time only. -/
def closingOnly : ActiveSlots := ⟨2⟩

/-- Whether a slot is active: its bit is set in the two's complement of the mask. -/
def contains (a : ActiveSlots) : TimeSlot → Bool
  | .opening => a.mask % 2 == 1
  | .closing => a.mask / 2 % 2 == 1

@[simp] theorem contains_all (slot : TimeSlot) : all.contains slot = true := by
  cases slot <;> rfl

@[simp] theorem contains_openingOnly (slot : TimeSlot) :
    openingOnly.contains slot = decide (slot = .opening) := by
  cases slot <;> rfl

@[simp] theorem contains_closingOnly (slot : TimeSlot) :
    closingOnly.contains slot = decide (slot = .closing) := by
  cases slot <;> rfl

end ActiveSlots

/-- A transform at each of the two times. -/
structure TransformPair (α : Type) where
  opening : Transform α
  closing : Transform α

namespace TransformPair

variable {α : Type}

/-- The same transform at both times. -/
def still (t : Transform α) : TransformPair α := ⟨t, t⟩

/-- The transform of a slot. -/
def get (s : TransformPair α) : TimeSlot → Transform α
  | .opening => s.opening
  | .closing => s.closing

/-- Replaces the transforms of the active slots. -/
def update (s : TransformPair α) (active : ActiveSlots)
    (f : TimeSlot → Transform α → Transform α) : TransformPair α where
  opening := if active.contains .opening then f .opening s.opening else s.opening
  closing := if active.contains .closing then f .closing s.closing else s.closing

/-- Replaces both transforms. -/
def map (s : TransformPair α) (f : TimeSlot → Transform α → Transform α) : TransformPair α where
  opening := f .opening s.opening
  closing := f .closing s.closing

/-- The inverse transforms. -/
def inverse (s : TransformPair α) : TransformPair α :=
  s.map (fun _ t => t.inverse)

@[ext] theorem ext_get {s t : TransformPair α} (h : ∀ slot, s.get slot = t.get slot) : s = t := by
  cases s
  cases t
  have h₀ := h .opening
  have h₁ := h .closing
  simp_all [get]

/-- An update changes exactly the active slots. -/
@[simp] theorem get_update (s : TransformPair α) (active : ActiveSlots)
    (f : TimeSlot → Transform α → Transform α) (slot : TimeSlot) :
    (s.update active f).get slot =
      if active.contains slot then f slot (s.get slot) else s.get slot := by
  cases slot <;> rfl

@[simp] theorem get_map (s : TransformPair α) (f : TimeSlot → Transform α → Transform α)
    (slot : TimeSlot) : (s.map f).get slot = f slot (s.get slot) := by
  cases slot <;> rfl

@[simp] theorem get_inverse (s : TransformPair α) (slot : TimeSlot) :
    s.inverse.get slot = (s.get slot).inverse := by
  cases slot <;> rfl

variable [Scalar α]

/-- The identity at both times. -/
def identity : TransformPair α := still .identity

/-- Whether the transform differs between the two times. -/
def moves (s : TransformPair α) : Bool :=
  !s.opening.same s.closing

end TransformPair

end SceneScript
