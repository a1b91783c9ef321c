import SceneScript.Scalar

/-!
# A hash of number sequences

The 32-bit FNV-1a hash over the bit patterns of numbers, the low word of each pattern before the
high one. Patterns come from `Scalar.bits`, which gives the two zeros one pattern and all `NaN`s
one pattern, so sequences of equal numbers have equal hashes.
-/

set_option autoImplicit false

namespace SceneScript.NumberHash

/-- The hash of the empty sequence. -/
def basis : UInt32 := 0x811c9dc5

/-- The factor by which every word is mixed in. -/
def prime : UInt32 := 0x01000193

/-- Mixes one word into a hash. -/
def mix (h word : UInt32) : UInt32 := (h ^^^ word) * prime

/-- The low word of a pattern. -/
def lowWord (pattern : UInt64) : UInt32 := pattern.toUInt32

/-- The high word of a pattern. -/
def highWord (pattern : UInt64) : UInt32 := (pattern >>> 32).toUInt32

/-- Mixes the pattern of one number into a hash. -/
def mixNumber {α : Type} [Scalar α] (h : UInt32) (x : α) : UInt32 :=
  mix (mix h (lowWord (Scalar.bits x))) (highWord (Scalar.bits x))

/-- The hash of a sequence of numbers. -/
def hash {α : Type} [Scalar α] (xs : List α) : UInt32 :=
  xs.foldl mixNumber basis

end SceneScript.NumberHash
