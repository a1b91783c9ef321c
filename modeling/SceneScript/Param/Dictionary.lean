import SceneScript.Param.Basic

/-!
# Parameter dictionaries

A dictionary answers typed questions about the parameters of one entity. It holds the entity's
own parameters and those that it inherits from Attribute directives. Of several parameters that
match a question the last own one wins, and an inherited one counts only if no own one matches.

Every entry carries a mark that a lookup sets when it returns the entry, so that the parameters
nobody asked for can be reported. Removing entries leaves the marks of the others; renaming an
entry makes a new one, without a mark.
-/

set_option autoImplicit false

namespace SceneScript

/-- A parameter in a dictionary, with the mark that a lookup returned it. -/
structure DictEntry (α : Type) where
  param : Param α
  used : Bool := false

/-- A color given by its three components. -/
structure RGB (α : Type) where
  r : α
  g : α
  b : α

/-- The color that a list of exactly three numbers stands for. -/
def RGB.ofNumbers? {α : Type} : List α → Option (RGB α)
  | [r, g, b] => some ⟨r, g, b⟩
  | _ => none

/-- The parameters of one entity. -/
structure Dictionary (α : Type) where
  colorSpace : ColorSpace
  own : List (DictEntry α)
  inherited : List (DictEntry α)

namespace Dictionary

variable {α : Type}

/-- The dictionary of the given parameters, none of them marked. -/
def ofParams (params : List (Param α)) (colorSpace : ColorSpace)
    (inherited : List (Param α)) : Dictionary α where
  colorSpace
  own := params.map ({ param := · })
  inherited := inherited.map ({ param := · })

/-- All entries, the own ones first. -/
def entries (d : Dictionary α) : List (DictEntry α) :=
  d.own ++ d.inherited

/-- All parameters, the own ones first. -/
def params (d : Dictionary α) : List (Param α) :=
  d.entries.map (·.param)

/-- The number of entries. -/
def size (d : Dictionary α) : Nat :=
  d.own.length + d.inherited.length

/-! ## Lookups -/

/-- The last entry that `wanted` accepts, and the list with that entry marked. -/
def markLast (wanted : Param α → Bool) :
    List (DictEntry α) → Option (Param α × List (DictEntry α))
  | [] => none
  | e :: rest =>
    match markLast wanted rest with
    | some (p, marked) => some (p, e :: marked)
    | none => if wanted e.param then some (e.param, { e with used := true } :: rest) else none

/-- The parameter that answers a question, and the dictionary with its entry marked. -/
def lookup (wanted : Param α → Bool) (d : Dictionary α) : Option (Param α) × Dictionary α :=
  match markLast wanted d.own with
  | some (p, own) => (some p, { d with own })
  | none =>
    match markLast wanted d.inherited with
    | some (p, inherited) => (some p, { d with inherited })
    | none => (none, d)

/-- What is found is the last accepted parameter. -/
theorem map_fst_markLast (wanted : Param α → Bool) (es : List (DictEntry α)) :
    (markLast wanted es).map (·.1) = (es.map (·.param)).reverse.find? wanted := by
  induction es with
  | nil => rfl
  | cons e rest ih =>
    rw [List.map_cons, List.reverse_cons, List.find?_append, ← ih, markLast]
    cases h : markLast wanted rest with
    | some found => rfl
    | none => cases hw : wanted e.param <;> simp [hw]

/-- Marking an entry leaves the parameters as they are. -/
theorem map_param_of_markLast {wanted : Param α → Bool} {es marked : List (DictEntry α)}
    {p : Param α} (h : markLast wanted es = some (p, marked)) :
    marked.map (·.param) = es.map (·.param) := by
  induction es generalizing marked with
  | nil => simp [markLast] at h
  | cons e rest ih =>
    rw [markLast] at h
    cases hr : markLast wanted rest with
    | some found =>
      obtain ⟨q, marked'⟩ := found
      rw [hr] at h
      obtain ⟨rfl, rfl⟩ : q = p ∧ e :: marked' = marked := by simpa using h
      simp [ih hr]
    | none =>
      rw [hr] at h
      cases hw : wanted e.param with
      | false => simp [hw] at h
      | true =>
        obtain ⟨_, rfl⟩ : e.param = p ∧ { e with used := true } :: rest = marked := by
          simpa [hw] using h
        rfl

/-- A lookup leaves the parameters as they are. -/
@[simp] theorem params_lookup (wanted : Param α → Bool) (d : Dictionary α) :
    (d.lookup wanted).2.params = d.params := by
  rw [lookup]
  cases ho : markLast wanted d.own with
  | some found => simp [params, entries, map_param_of_markLast ho]
  | none =>
    cases hi : markLast wanted d.inherited with
    | some found => simp [params, entries, map_param_of_markLast hi]
    | none => rfl

/-- Whether a parameter has the name and the type, in either spelling of the type. -/
def hasType (type name : String) (p : Param α) : Bool :=
  p.name == name && modernType p.type == type

/-- Whether a parameter has the name and one of the color types. -/
def isColor (name : String) (p : Param α) : Bool :=
  p.name == name && isColorType p.type

/-- A question about one typed parameter: what `read` makes of it, or of its absence. -/
def ask {β : Type} (type name : String) (read : Option (Param α) → β) (d : Dictionary α) :
    β × Dictionary α :=
  let (found, d') := d.lookup (hasType type name)
  (read found, d')

/-- The first number of a float parameter. -/
def oneFloat (name : String) (default : α) : Dictionary α → α × Dictionary α :=
  ask "float" name (fun p => (p.bind (·.numbers.head?)).getD default)

/-- The first number of an integer parameter. -/
def oneInt (name : String) (default : α) : Dictionary α → α × Dictionary α :=
  ask "integer" name (fun p => (p.bind (·.numbers.head?)).getD default)

/-- The first truth value of a bool parameter. -/
def oneBool (name : String) (default : Bool) : Dictionary α → Bool × Dictionary α :=
  ask "bool" name (fun p => (p.bind (·.bools.head?)).getD default)

/-- The first string of a string parameter. -/
def oneString (name : String) (default : String) : Dictionary α → String × Dictionary α :=
  ask "string" name (fun p => (p.bind (·.strings.head?)).getD default)

/-- All numbers of a float parameter, none if it is absent. -/
def floats (name : String) : Dictionary α → List α × Dictionary α :=
  ask "float" name (fun p => (p.map (·.numbers)).getD [])

/-- All numbers of an integer parameter, none if it is absent. -/
def ints (name : String) : Dictionary α → List α × Dictionary α :=
  ask "integer" name (fun p => (p.map (·.numbers)).getD [])

/-- All truth values of a bool parameter, none if it is absent. -/
def bools (name : String) : Dictionary α → List Bool × Dictionary α :=
  ask "bool" name (fun p => (p.map (·.bools)).getD [])

/-- All strings of a string parameter, none if it is absent. -/
def strings (name : String) : Dictionary α → List String × Dictionary α :=
  ask "string" name (fun p => (p.map (·.strings)).getD [])

/-- The numbers two by two; a last single number is dropped. -/
def pairs : List α → List (α × α)
  | x :: y :: rest => (x, y) :: pairs rest
  | _ => []

/-- The numbers three by three; an incomplete last triple is dropped. -/
def triples : List α → List (α × α × α)
  | x :: y :: z :: rest => (x, y, z) :: triples rest
  | _ => []

/-- The points of a point2 parameter. -/
def points2 (name : String) : Dictionary α → List (α × α) × Dictionary α :=
  ask "point2" name (fun p => pairs ((p.map (·.numbers)).getD []))

/-- The points of a point3 parameter. -/
def points3 (name : String) : Dictionary α → List (α × α × α) × Dictionary α :=
  ask "point3" name (fun p => triples ((p.map (·.numbers)).getD []))

/-- The color of an rgb parameter, if it has exactly three numbers. -/
def oneRGB (name : String) : Dictionary α → Option (RGB α) × Dictionary α :=
  ask "rgb" name (fun p => p.bind (fun q => RGB.ofNumbers? q.numbers))

/-- The temperature, and perhaps more numbers, of a blackbody parameter. -/
def blackbody (name : String) : Dictionary α → List α × Dictionary α :=
  ask "blackbody" name (fun p => (p.map (·.numbers)).getD [])

/-- The name of a texture parameter's texture, empty if there is none. -/
def texture (name : String) : Dictionary α → String × Dictionary α :=
  ask "texture" name (fun p => (p.bind (·.strings.head?)).getD "")

/-- Whether the name is bound to any color parameter. -/
def hasColor (name : String) (d : Dictionary α) : Bool × Dictionary α :=
  let (found, d') := d.lookup (isColor name)
  (found.isSome, d')

/-! ## Looking without marking -/

/-- The last parameter of a name, own ones before inherited ones, whatever its type. -/
def named? (name : String) (d : Dictionary α) : Option (Param α) :=
  let last (es : List (DictEntry α)) := (es.reverse.find? (·.param.name == name)).map (·.param)
  (last d.own).or (last d.inherited)

/-- Where the last parameter of a name stands. -/
def locationOf? (name : String) (d : Dictionary α) : Option (Location α) :=
  (d.named? name).map (·.loc)

/-- The parameters that no lookup returned, except those that may stay unused. -/
def unused (d : Dictionary α) : List (Param α) :=
  (d.entries.filter (fun e => !e.param.unusedAllowed && !e.used)).map (·.param)

/-! ## Edits -/

/-- The dictionary without the entries that `dropped` accepts. -/
def removeWhere (dropped : Param α → Bool) (d : Dictionary α) : Dictionary α :=
  let keep (e : DictEntry α) := !dropped e.param
  { d with own := d.own.filter keep, inherited := d.inherited.filter keep }

/-- The dictionary without the entries of a name and type. -/
def remove (type name : String) : Dictionary α → Dictionary α :=
  removeWhere (hasType type name)

/-- The dictionary without the color entries of a name. -/
def removeColor (name : String) : Dictionary α → Dictionary α :=
  removeWhere (isColor name)

/-- The entry under a new name, which makes it a new entry; other entries stay as they are. -/
def renameEntry (before after : String) (e : DictEntry α) : DictEntry α :=
  if e.param.name == before then { param := { e.param with name := after } } else e

/-- The dictionary with the entries of one name renamed. -/
def rename (before after : String) (d : Dictionary α) : Dictionary α :=
  { d with own := d.own.map (renameEntry before after)
           inherited := d.inherited.map (renameEntry before after) }

/-! ## Text -/

variable [Scalar α]

/-- The text of the last parameter of a name, empty if there is none. -/
def definition (name : String) (d : Dictionary α) : String :=
  ((d.named? name).map Param.text).getD ""

/-- One parameter a line, each behind `count` blanks. -/
def lines (d : Dictionary α) (count : Nat) : String :=
  String.join (d.params.map (fun p => blanks count ++ p.text ++ "\n"))

/-- The code units of the parameters, one a line, each behind `count` blanks. -/
def linesLength (d : Dictionary α) (count : Nat) : Nat :=
  d.params.foldl (fun total p => total + (count + codeUnits p.text + 1)) 0

/-- One parameter a line, each one level deeper than an indent of `indent` blanks. -/
def listing (indent : Nat) (d : Dictionary α) : String :=
  d.lines (indent + indentWidth)

/-- The listing at an indent that comes out of a computation. It may be below zero, as long as the
lines, one level deeper, are not. -/
def listingAt (indent : α) (d : Dictionary α) : Except (IndentError α) String :=
  (blankCount (indent + Scalar.ofNat indentWidth)).bind fun count =>
    if longestText < d.linesLength count then .error .tooLong else .ok (d.lines count)

/-- Where the arithmetic is exact, a whole indent gives the listing, unless it is too long. -/
theorem listingAt_of_wholePart? {indent : α} {n : Nat} {d : Dictionary α}
    (whole : Scalar.wholePart? (indent + Scalar.ofNat indentWidth)
      = some ((n + indentWidth : Nat) : Int))
    (fits : n + indentWidth ≤ longestText)
    (allFit : d.linesLength (n + indentWidth) ≤ longestText) :
    d.listingAt indent = .ok (d.listing n) := by
  have limit : ¬(longestText < d.linesLength (n + indentWidth)) := by omega
  rw [listingAt, listing, blankCount_of_wholePart? whole fits]
  simp only [Except.bind, if_neg limit]

end Dictionary

end SceneScript
