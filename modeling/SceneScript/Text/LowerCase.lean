import SceneScript.Text.CaseTable

/-!
# Lower case of a text

Full Unicode lower-casing without regard to a language. Every character is replaced on its own,
with two exceptions: the capital I with a dot becomes two characters, and the capital sigma
becomes the final form at the end of a word. A sigma ends a word when a letter with case
precedes it and none follows, marks and modifiers in between being passed over.
-/

set_option autoImplicit false

namespace SceneScript.Text

/-- The character with the given code point shifted by `shift`. -/
def shiftedChar (code : Nat) (shift : Int) : Char :=
  Char.ofNat ((code : Int) + shift).toNat

/-- The lower case of one character, where that is one character. -/
def lowerChar (c : Char) : Char :=
  match lowerRuns.find? (fun run => run.contains c.toNat) with
  | some run => shiftedChar c.toNat run.shift
  | none => c

/-- Whether a search for a neighbouring letter passes over the character. -/
def passedOver (c : Char) : Bool :=
  passedOverRanges.any (fun r => r.contains c.toNat)

/-- Whether the first character that is not passed over is a letter with case. -/
def startsWithLetter : List Char → Bool
  | [] => false
  | c :: rest =>
    if passedOver c then startsWithLetter rest
    else casedRanges.any (fun r => r.contains c.toNat)

/-- The lower case of one character between the characters `before`, nearest first, and
`after`. -/
def lowerInContext (before : List Char) (c : Char) (after : List Char) : List Char :=
  if c = '\u03a3' then
    if startsWithLetter before && !startsWithLetter after then ['\u03c2'] else ['\u03c3']
  else if c = '\u0130' then ['i', '\u0307']
  else [lowerChar c]

/-- The lower case of the remaining characters, with those already read in `before`. -/
def lowerFrom (before : List Char) : List Char → List Char
  | [] => []
  | c :: rest => lowerInContext before c rest ++ lowerFrom (c :: before) rest

/-- The lower case of a text. -/
def lower (s : String) : String :=
  String.ofList (lowerFrom [] s.toList)

/-! A sigma between words, at the end of one and at the beginning of one. -/

example : lower "Σ ΑΣ ΣΑ" = "σ ας σα" := by decide +kernel

end SceneScript.Text
