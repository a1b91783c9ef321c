import SceneScript.Proofs.Writer.Contents

/-!
# Reading directives back

`Directive.ofLines` makes a directive out of the items of its lines, by a table of keywords.
`ofLines_lines` says that it gives the contents of the directive whose lines they are, with the
texts of the numbers in place of the numbers. The texts of the directive must be such that a reader
can tell them apart (`Directive.Readable`).
-/

set_option autoImplicit false

namespace SceneScript

open Writer

/-! ## Texts that can be told apart -/

/-- A parameter whose texts can be told apart. Truth values are written as quoted words, so they may
only stand in parameters whose type tells them from texts. -/
structure Param.Readable {α : Type} (p : Param α) : Prop where
  type : ∀ c ∈ p.type.toList, c ≠ ' ' ∧ c ≠ '"'
  name : '"' ∉ p.name.toList
  strings : ∀ s ∈ p.strings, '"' ∉ s.toList
  bools : p.bools ≠ [] → p.type = "bool"
  noStrings : p.type = "bool" → p.strings = []

/-- A directive whose texts can be told apart. -/
structure Directive.Readable {α : Type} (d : Directive α) : Prop where
  names : ∀ name ∈ d.names, '"' ∉ name.toList
  value : ∀ value ∈ d.optionValue?, '\n' ∉ value.toList
  params : ∀ p ∈ d.params, p.Readable

namespace Writer

/-- Where the contents of a parameter are said to stand: nowhere. -/
def nowhere : Location String := ⟨"", "", ""⟩

/-! ## Readers -/

/-- The text of a bare word that is not empty. -/
def Item.word? : Item → Option String
  | bare word => if word = "" then none else some word
  | _ => none

/-- The text in quotation marks. -/
def Item.quoted? : Item → Option String
  | quoted text => some text
  | _ => none

/-- The parameter with the given items. -/
def readParam (items : List Item) : Param String :=
  match items with
  | .quoted declaration :: .bare "[" :: rest =>
    let type := String.ofList (declaration.toList.takeWhile (· != ' '))
    let texts := rest.dropLast.filterMap Item.quoted?
    { type
      name := String.ofList (declaration.toList.dropWhile (· != ' ')).tail
      loc := nowhere
      numbers := rest.dropLast.filterMap Item.word?
      strings := if type = "bool" then [] else texts
      bools := if type = "bool" then texts.map (· == "true") else [] }
  | _ => { type := "", name := "", loc := nowhere }

/-- The items that follow a keyword, and the further lines. -/
abbrev LineReader : Type := List Item → List (List Item) → Option (Directive String)

/-- A keyword that stands alone. -/
def readBare (d : Directive String) : LineReader :=
  fun _ _ => some d

/-- A keyword with a name. -/
def readNamed (make : String → Directive String) : LineReader
  | [.quoted name], _ => some (make name)
  | _, _ => none

/-- A keyword with a name and parameters. -/
def readEntity (make : String → List (Param String) → Directive String) : LineReader
  | [.quoted name], further => some (make name (further.map readParam))
  | _, _ => none

/-- A keyword with a vector. -/
def readVector (make : Vec3 String → Directive String) : LineReader
  | [.bare x, .bare y, .bare z], _ => some (make ⟨x, y, z⟩)
  | _, _ => none

/-- A keyword with numbers in brackets. -/
def readMatrix (make : List String → Directive String) : LineReader :=
  fun items _ => some (make (items.tail.dropLast.filterMap Item.word?))

/-- Option: a name, and the rest of the line. -/
def readOption : LineReader
  | [.quoted name, .raw value], _ => some (.option name value)
  | _, _ => none

/-- Rotate: an angle and an axis. -/
def readRotate : LineReader
  | [.bare degrees, .bare x, .bare y, .bare z], _ => some (.rotate degrees ⟨x, y, z⟩)
  | _, _ => none

/-- LookAt: three vectors, on a line each. -/
def readLookAt : LineReader
  | [.bare a, .bare b, .bare c], [[.bare d, .bare e, .bare f], [.bare g, .bare h, .bare i]] =>
    some (.lookAt ⟨a, b, c⟩ ⟨d, e, f⟩ ⟨g, h, i⟩)
  | _, _ => none

/-- ActiveTransform: one of the words for slots. -/
def readSlots : LineReader
  | [.bare word], _ =>
    (Grammar.slotWords.find? (·.name == word)).map .activeTransform
  | _, _ => none

/-- TransformTimes: two numbers. -/
def readTimes : LineReader
  | [.bare opening, .bare closing], _ => some (.transformTimes opening closing)
  | _, _ => none

/-- Attribute: a target, and one parameter on the same line or any number on further lines. -/
def readAttributes : LineReader
  | [.quoted target], further => some (.attributes target (further.map readParam))
  | .quoted target :: param, _ => some (.attributes target [readParam param])
  | _, _ => none

/-- Texture: a name, a type, an implementation and parameters. -/
def readTexture : LineReader
  | [.quoted name, .quoted kind, .quoted implementation], further =>
    some (.texture name kind implementation (further.map readParam))
  | _, _ => none

/-- MediumInterface: two names. -/
def readMedia : LineReader
  | [.quoted inside, .quoted outside], _ => some (.mediumInterface inside outside)
  | _, _ => none

/-- All keywords with their readers. -/
def readers : List (String × LineReader) :=
  [("Option", readOption),
   ("Identity", readBare .identity),
   ("Translate", readVector .translate),
   ("Scale", readVector .scale),
   ("Rotate", readRotate),
   ("LookAt", readLookAt),
   ("ConcatTransform", readMatrix .concatTransform),
   ("Transform", readMatrix .transform),
   ("CoordinateSystem", readNamed .coordinateSystem),
   ("CoordSysTransform", readNamed .coordSysTransform),
   ("ActiveTransform", readSlots),
   ("TransformTimes", readTimes),
   ("ColorSpace", readNamed .colorSpace),
   ("Camera", readEntity .camera),
   ("Film", readEntity .film),
   ("Sampler", readEntity .sampler),
   ("PixelFilter", readEntity .pixelFilter),
   ("Integrator", readEntity .integrator),
   ("Accelerator", readEntity .accelerator),
   ("WorldBegin", readBare .worldBegin),
   ("WorldEnd", readBare .worldEnd),
   ("AttributeBegin", readBare .attributeBegin),
   ("AttributeEnd", readBare .attributeEnd),
   ("TransformBegin", readBare .transformBegin),
   ("TransformEnd", readBare .transformEnd),
   ("Attribute", readAttributes),
   ("Texture", readTexture),
   ("Material", readEntity .material),
   ("MakeNamedMaterial", readEntity .makeNamedMaterial),
   ("NamedMaterial", readNamed .namedMaterial),
   ("MakeNamedMedium", readEntity .makeNamedMedium),
   ("MediumInterface", readMedia),
   ("LightSource", readEntity .lightSource),
   ("AreaLightSource", readEntity .areaLightSource),
   ("Shape", readEntity .shape),
   ("ReverseOrientation", readBare .reverseOrientation),
   ("ObjectBegin", readNamed .objectBegin),
   ("ObjectEnd", readBare .objectEnd),
   ("ObjectInstance", readNamed .objectInstance)]

end Writer

/-- The directive whose lines have the given items. -/
def Directive.ofLines (header : List Item) (further : List (List Item)) :
    Option (Directive String) :=
  match header with
  | .bare keyword :: items => (readers.lookup keyword).bind fun read => read items further
  | _ => none

/-! ## Reading what was written -/

namespace Writer

/-- The items between brackets have the words and the texts of those that were put there; two blanks
without an item between them have none. -/
theorem filterMap_bracketed (items : List Item) :
    (bracketed items).tail.dropLast.filterMap Item.word? = items.filterMap Item.word? ∧
      (bracketed items).tail.dropLast.filterMap Item.quoted? = items.filterMap Item.quoted? := by
  rw [bracketed, List.tail_cons, List.dropLast_concat]
  cases items with
  | nil => exact ⟨rfl, rfl⟩
  | cons i rest => exact ⟨rfl, rfl⟩

variable {α : Type} [Scalar α]

theorem texts_values (p : Param α) :
    (p.values.map valueItem).filterMap Item.quoted? =
      p.strings ++ p.bools.map fun b => if b then "true" else "false" := by
  simp [Param.values, List.filterMap_append, List.filterMap_map, Function.comp_def, valueItem,
    Item.quoted?, number]

variable [LawfulText α]

theorem words_numbers (xs : List α) :
    (xs.map number).filterMap Item.word? = xs.map Scalar.text := by
  simp [List.filterMap_map, Function.comp_def, number, Item.word?, LawfulText.text_ne_empty]

theorem words_values (p : Param α) :
    (p.values.map valueItem).filterMap Item.word? = p.numbers.map Scalar.text := by
  simp [Param.values, List.filterMap_append, List.filterMap_map, Function.comp_def, valueItem,
    Item.word?, number, LawfulText.text_ne_empty]

/-- A parameter is read as it was. -/
theorem readParam_paramItems {p : Param α} (readable : p.Readable) :
    readParam (paramItems p) = p.contents Scalar.text nowhere := by
  -- the type ends at the first blank
  have declared : (p.type ++ " " ++ p.name).toList = p.type.toList ++ ' ' :: p.name.toList := by
    simp [String.toList_append]
  have noBlank : ∀ c ∈ p.type.toList, (c != ' ') = true := fun c hc => by
    simpa using (readable.type c hc).1
  have type : (p.type.toList ++ ' ' :: p.name.toList).takeWhile (· != ' ') = p.type.toList := by
    rw [List.takeWhile_append_of_pos noBlank]
    simp
  have name : (p.type.toList ++ ' ' :: p.name.toList).dropWhile (· != ' ') =
      ' ' :: p.name.toList := by
    rw [List.dropWhile_append_of_pos noBlank]
    simp
  obtain ⟨words, texts⟩ := filterMap_bracketed (p.values.map valueItem)
  rw [words_values] at words
  rw [texts_values] at texts
  have items : paramItems p = .quoted (p.type ++ " " ++ p.name) :: .bare "[" ::
      (bracketed (p.values.map valueItem)).tail := rfl
  have strings : (if p.type = "bool" then [] else
      p.strings ++ p.bools.map fun b => if b then "true" else "false") = p.strings := by
    split
    · rename_i bool
      exact (readable.noStrings bool).symm
    · rename_i other
      have none : p.bools = [] := Decidable.byContradiction fun some => other (readable.bools some)
      simp [none]
  have bools : (if p.type = "bool" then
      (p.strings ++ p.bools.map fun b => if b then "true" else "false").map (· == "true")
      else []) = p.bools := by
    split
    · rename_i bool
      have back : (fun b => (if b then "true" else "false") == "true") = id := by
        funext b
        cases b <;> rfl
      simp [readable.noStrings bool, Function.comp_def, back]
    · rename_i other
      exact Decidable.byContradiction fun some => other (readable.bools (Ne.symm some))
  rw [items]
  simp only [readParam, words, texts, declared, type, name, List.tail_cons, String.ofList_toList,
    strings, bools]
  rfl

/-- A directive is read as it was. -/
theorem ofLines_lines {d : Directive α} (readable : d.Readable) :
    Directive.ofLines d.header d.further = some (d.contents Scalar.text nowhere) := by
  have params (ps : List (Param α)) (readable : ∀ p ∈ ps, p.Readable) :
      (ps.map paramItems).map readParam = ps.map (·.contents Scalar.text nowhere) := by
    rw [List.map_map]
    exact List.map_congr_left fun p hp => readParam_paramItems (readable p hp)
  have matrix (xs : List α) :
      (bracketed (xs.map number)).tail.dropLast.filterMap Item.word? = xs.map Scalar.text :=
    (filterMap_bracketed _).1.trans (words_numbers xs)
  have entity {make : String → List (Param String) → Directive String} (name : String)
      (ps : List (Param α)) (readable : ∀ p ∈ ps, p.Readable) :
      readEntity make [.quoted name] (ps.map paramItems) =
        some (make name (ps.map (·.contents Scalar.text nowhere))) := by
    rw [readEntity, params ps readable]
  obtain ⟨-, -, readable⟩ := readable
  cases d with
  | concatTransform xs => exact congrArg (some ∘ Directive.concatTransform) (matrix xs)
  | transform xs => exact congrArg (some ∘ Directive.transform) (matrix xs)
  | activeTransform slots => cases slots <;> rfl
  | camera name ps => exact entity name ps readable
  | attributes target ps =>
    rcases ps with _ | ⟨p, _ | ⟨q, rest⟩⟩
    · rfl
    · -- the parameter stands on the line of its keyword
      have read := readParam_paramItems (readable p List.mem_cons_self)
      exact congrArg (fun p => some (Directive.attributes target [p])) read
    · exact congrArg (some ∘ Directive.attributes target) (params (p :: q :: rest) readable)
  | texture name kind implementation ps =>
    exact congrArg (some ∘ Directive.texture name kind implementation) (params ps readable)
  | _ => first | rfl | exact entity _ _ readable

end Writer

end SceneScript
