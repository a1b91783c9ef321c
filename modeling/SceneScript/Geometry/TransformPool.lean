import SceneScript.Geometry.TransformPair

/-!
# Shared transforms

A scene uses few different transforms many times. The pool keeps one copy of each and hands out
handles to it; two handles are equal exactly when they stand for the same copy. Copies are never
removed, so a handle stays good.

Copies are compared only if their hashes agree, and a hash alone never decides: interning a
transform returns a copy that is the same transform. The hash function is a parameter.
-/

set_option autoImplicit false

namespace SceneScript

/-- A pooled transform and its place in the pool. -/
structure Handle (α : Type) where
  slot : Nat
  transform : Transform α

/-- The pooled transforms, in the order in which they came, and how the pool was used. -/
structure TransformPool (α : Type) where
  entries : List (Transform α)
  lookups : Nat
  hits : Nat

/-- A hash function on transforms. -/
abbrev TransformHash (α : Type) : Type := Transform α → Nat

/-- The hash that a pool uses unless it is given another one. -/
def standardHash {α : Type} [Scalar α] : TransformHash α :=
  fun t => t.hash.toNat

/-- Numbers that tell how a pool was used. -/
structure PoolStatistics where
  lookups : Nat
  hits : Nat
  entries : Nat
  bytes : Nat
deriving DecidableEq, Repr

namespace TransformPool

variable {α : Type}

/-- A pool of nothing. -/
def empty : TransformPool α := ⟨[], 0, 0⟩

/-- The number of pooled transforms. -/
def size (p : TransformPool α) : Nat :=
  p.entries.length

/-- The size of a pooled transform: two matrices of sixteen numbers of eight bytes. -/
def bytesPerEntry : Nat := 2 * 16 * 8

/-- How the pool was used. -/
def statistics (p : TransformPool α) : PoolStatistics where
  lookups := p.lookups
  hits := p.hits
  entries := p.size
  bytes := p.size * bytesPerEntry

variable [Scalar α]

/-- Whether a pooled transform can stand for `t`. -/
def standsFor (hashOf : TransformHash α) (t entry : Transform α) : Bool :=
  hashOf entry == hashOf t && entry.same t

/-- The first transform that can stand for `t`, the first of the list being in place `slot`. -/
def findFrom (hashOf : TransformHash α) (t : Transform α) (slot : Nat) :
    List (Transform α) → Option (Handle α)
  | [] => none
  | entry :: rest =>
    if standsFor hashOf t entry then some ⟨slot, entry⟩ else findFrom hashOf t (slot + 1) rest

/-- The handle of a transform, which joins the pool if none can stand for it yet. -/
def intern (hashOf : TransformHash α) (t : Transform α) (p : TransformPool α) :
    Handle α × TransformPool α :=
  match findFrom hashOf t 0 p.entries with
  | some h => (h, { p with lookups := p.lookups + 1, hits := p.hits + 1 })
  | none =>
    (⟨p.size, t⟩, { p with entries := p.entries ++ [t], lookups := p.lookups + 1 })

/-- What is found stands for the transform and is in the place that its handle names. -/
theorem findFrom_eq_some {hashOf : TransformHash α} {t : Transform α} {slot : Nat}
    {entries : List (Transform α)} {h : Handle α} (found : findFrom hashOf t slot entries = some h) :
    standsFor hashOf t h.transform = true ∧ slot ≤ h.slot ∧
      entries[h.slot - slot]? = some h.transform := by
  induction entries generalizing slot with
  | nil => simp [findFrom] at found
  | cons entry rest ih =>
    by_cases fits : standsFor hashOf t entry = true
    · simp only [findFrom, fits, if_true, Option.some.injEq] at found
      subst found
      simpa using fits
    · simp only [findFrom, fits, Bool.false_eq_true, if_false] at found
      obtain ⟨same, le, place⟩ := ih found
      refine ⟨same, by omega, ?_⟩
      have : h.slot - slot = (h.slot - (slot + 1)) + 1 := by omega
      rw [this, List.getElem?_cons_succ]
      exact place

end TransformPool

/-- A transform that is given at two times, by handles. -/
structure TimedTransform (α : Type) where
  opening : Handle α
  openingTime : α
  closing : Handle α
  closingTime : α

/-- Whether the two handles stand for different transforms. -/
def TimedTransform.moves {α : Type} (t : TimedTransform α) : Bool :=
  t.opening.slot != t.closing.slot

end SceneScript
