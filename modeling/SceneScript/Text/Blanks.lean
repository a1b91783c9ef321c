import SceneScript.Scalar

/-!
# Blanks

Runs of blanks, by which lines are indented. `blanks` takes their number as it is. `blankCount`
takes a number that comes out of a computation: it drops the fraction, reads what is not a number
as zero, and refuses numbers below zero, the infinities, and runs longer than any text may be.
-/

set_option autoImplicit false

namespace SceneScript

/-- A run of blanks. -/
def blanks (count : Nat) : String :=
  String.ofList (List.replicate count ' ')

/-- The most UTF-16 code units that one text may have. -/
def longestText : Nat := 536870888

/-- The number of UTF-16 code units of a text: two for a character beyond the first 65536, one for
any other. -/
def codeUnits (text : String) : Nat :=
  text.foldl (fun n c => n + if c.toNat < 0x10000 then 1 else 2) 0

/-- Why a text has no indentation. -/
inductive IndentError (α : Type) where
  /-- The number of blanks is below zero or infinite. -/
  | badCount (count : α)
  /-- The text would be longer than `longestText`. -/
  | tooLong

/-- The wording of a failure names the number that was computed, with its fraction. -/
def IndentError.wording {α : Type} [Scalar α] : IndentError α → String
  | badCount count => "Invalid count value: " ++ Scalar.text count
  | tooLong => "Invalid string length"

variable {α : Type} [Scalar α]

/-- The number of blanks for a computed number. Only its whole part counts, so a number between
minus one and zero gives no blanks. -/
def blankCount (count : α) : Except (IndentError α) Nat :=
  match Scalar.wholePart? count with
  | none => if Scalar.isNaN count then .ok 0 else .error (.badCount count)
  | some n =>
    if n < 0 then .error (.badCount count)
    else if longestText < n.toNat then .error .tooLong
    else .ok n.toNat

/-- A whole number that is not below zero, and within the limit, is its own number of blanks. -/
theorem blankCount_of_wholePart? {count : α} {n : Nat}
    (whole : Scalar.wholePart? count = some (n : Int)) (fits : n ≤ longestText) :
    blankCount count = .ok n := by
  have sign : ¬((n : Int) < 0) := by omega
  simp only [blankCount, whole, if_neg sign, Int.toNat_natCast, if_neg (Nat.not_lt.mpr fits)]

/-- A number of blanks is never above the limit. -/
theorem le_longestText_of_blankCount {count : α} {n : Nat} (h : blankCount count = .ok n) :
    n ≤ longestText := by
  unfold blankCount at h
  split at h
  · split at h
    · cases h
      exact Nat.zero_le _
    · cases h
  · split at h
    · cases h
    · split at h
      · cases h
      · cases h
        omega

end SceneScript
