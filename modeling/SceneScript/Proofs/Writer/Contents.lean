import SceneScript.Proofs.Writer.Items
import SceneScript.Proofs.Writer.Outcomes

/-!
# What a directive says

`Directive.header` and `Directive.further` are the items of the lines that the writer puts out for a
directive when it is not upgrading (`wrote_page`, `linesText_lines`). Not all of a directive is
among them: `Directive.contents` leaves out what is not written of its parameters.
-/

set_option autoImplicit false

namespace SceneScript

/-! ## Directives over other numbers -/

/-- A vector with its components replaced. -/
def Vec3.map {α β : Type} (f : α → β) (v : Vec3 α) : Vec3 β :=
  ⟨f v.x, f v.y, f v.z⟩

/-- A parameter with its numbers replaced, moved to a place, and without what else is not written of
it: whether it may stay unused, and its color space. -/
def Param.contents {α β : Type} (f : α → β) (place : Location β) (p : Param α) : Param β where
  type := p.type
  name := p.name
  loc := place
  numbers := p.numbers.map f
  strings := p.strings
  bools := p.bools

namespace Directive

variable {α β γ : Type}

/-- A directive with its numbers replaced and its parameters moved to a place, without what is not
written of them. -/
def contents (f : α → β) (place : Location β) : Directive α → Directive β
  | option name value => option name value
  | identity => identity
  | translate v => translate (v.map f)
  | scale v => scale (v.map f)
  | rotate degrees axis => rotate (f degrees) (axis.map f)
  | lookAt eye look up => lookAt (eye.map f) (look.map f) (up.map f)
  | concatTransform entries => concatTransform (entries.map f)
  | transform entries => transform (entries.map f)
  | coordinateSystem name => coordinateSystem name
  | coordSysTransform name => coordSysTransform name
  | activeTransform slots => activeTransform slots
  | transformTimes opening closing => transformTimes (f opening) (f closing)
  | colorSpace name => colorSpace name
  | camera name params => camera name (params.map (·.contents f place))
  | film name params => film name (params.map (·.contents f place))
  | sampler name params => sampler name (params.map (·.contents f place))
  | pixelFilter name params => pixelFilter name (params.map (·.contents f place))
  | integrator name params => integrator name (params.map (·.contents f place))
  | accelerator name params => accelerator name (params.map (·.contents f place))
  | worldBegin => worldBegin
  | worldEnd => worldEnd
  | attributeBegin => attributeBegin
  | attributeEnd => attributeEnd
  | transformBegin => transformBegin
  | transformEnd => transformEnd
  | attributes target params => attributes target (params.map (·.contents f place))
  | texture name kind implementation params =>
    texture name kind implementation (params.map (·.contents f place))
  | material name params => material name (params.map (·.contents f place))
  | makeNamedMaterial name params => makeNamedMaterial name (params.map (·.contents f place))
  | namedMaterial name => namedMaterial name
  | makeNamedMedium name params => makeNamedMedium name (params.map (·.contents f place))
  | mediumInterface inside outside => mediumInterface inside outside
  | lightSource name params => lightSource name (params.map (·.contents f place))
  | areaLightSource name params => areaLightSource name (params.map (·.contents f place))
  | shape name params => shape name (params.map (·.contents f place))
  | reverseOrientation => reverseOrientation
  | objectBegin name => objectBegin name
  | objectEnd => objectEnd
  | objectInstance name => objectInstance name

/-- The contents of contents. -/
theorem contents_contents (f : α → β) (g : β → γ) (place : Location β) (place' : Location γ)
    (d : Directive α) : (d.contents f place).contents g place' = d.contents (g ∘ f) place' := by
  have params (ps : List (Param α)) :
      (ps.map (·.contents f place)).map (·.contents g place') =
        ps.map (·.contents (g ∘ f) place') := by
    simp [Param.contents, Function.comp_def]
  cases d <;> simp only [contents, Vec3.map, params, List.map_map, Function.comp_apply]

end Directive

/-! ## Lines of a directive -/

namespace Writer

variable {α : Type} [Scalar α]

/-- The item of a number. -/
def number (x : α) : Item := .bare (Scalar.text x)

/-- The items of a vector. -/
def vectorItems (v : Vec3 α) : List Item := [number v.x, number v.y, number v.z]

/-- The items of a value. -/
def valueItem : ParamValue α → Item
  | .number x => number x
  | .string s => .quoted s
  | .bool b => .quoted (if b then "true" else "false")

/-- Items in brackets. Without any, two blanks remain. -/
def bracketed (items : List Item) : List Item :=
  .bare "[" :: ((if items.isEmpty then [.bare ""] else items) ++ [.bare "]"])

/-- The items of a parameter. -/
def paramItems (p : Param α) : List Item :=
  .quoted (p.type ++ " " ++ p.name) :: bracketed (p.values.map valueItem)

end Writer

namespace Directive

open Writer

variable {α : Type} [Scalar α]

/-- The items of a directive's first line. -/
def header : Directive α → List Item
  | option name value => [.bare "Option", .quoted name, .raw value]
  | identity => [.bare "Identity"]
  | translate v => .bare "Translate" :: vectorItems v
  | scale v => .bare "Scale" :: vectorItems v
  | rotate degrees axis => .bare "Rotate" :: number degrees :: vectorItems axis
  | lookAt eye _ _ => .bare "LookAt" :: vectorItems eye
  | concatTransform entries => .bare "ConcatTransform" :: bracketed (entries.map number)
  | transform entries => .bare "Transform" :: bracketed (entries.map number)
  | coordinateSystem name => [.bare "CoordinateSystem", .quoted name]
  | coordSysTransform name => [.bare "CoordSysTransform", .quoted name]
  | activeTransform slots => [.bare "ActiveTransform", .bare slots.name]
  | transformTimes opening closing => [.bare "TransformTimes", number opening, number closing]
  | colorSpace name => [.bare "ColorSpace", .quoted name]
  | camera name _ => [.bare "Camera", .quoted name]
  | film name _ => [.bare "Film", .quoted name]
  | sampler name _ => [.bare "Sampler", .quoted name]
  | pixelFilter name _ => [.bare "PixelFilter", .quoted name]
  | integrator name _ => [.bare "Integrator", .quoted name]
  | accelerator name _ => [.bare "Accelerator", .quoted name]
  | worldBegin => [.bare "WorldBegin"]
  | worldEnd => [.bare "WorldEnd"]
  | attributeBegin => [.bare "AttributeBegin"]
  | attributeEnd => [.bare "AttributeEnd"]
  | transformBegin => [.bare "TransformBegin"]
  | transformEnd => [.bare "TransformEnd"]
  | attributes target [p] => .bare "Attribute" :: .quoted target :: paramItems p
  | attributes target _ => [.bare "Attribute", .quoted target]
  | texture name kind implementation _ =>
    [.bare "Texture", .quoted name, .quoted kind, .quoted implementation]
  | material name _ => [.bare "Material", .quoted name]
  | makeNamedMaterial name _ => [.bare "MakeNamedMaterial", .quoted name]
  | namedMaterial name => [.bare "NamedMaterial", .quoted name]
  | makeNamedMedium name _ => [.bare "MakeNamedMedium", .quoted name]
  | mediumInterface inside outside => [.bare "MediumInterface", .quoted inside, .quoted outside]
  | lightSource name _ => [.bare "LightSource", .quoted name]
  | areaLightSource name _ => [.bare "AreaLightSource", .quoted name]
  | shape name _ => [.bare "Shape", .quoted name]
  | reverseOrientation => [.bare "ReverseOrientation"]
  | objectBegin name => [.bare "ObjectBegin", .quoted name]
  | objectEnd => [.bare "ObjectEnd"]
  | objectInstance name => [.bare "ObjectInstance", .quoted name]

/-- The items of a directive's further lines. -/
def further : Directive α → List (List Item)
  | lookAt _ look up => [vectorItems look, vectorItems up]
  | attributes _ [_] => []
  | d => d.params.map paramItems

/-- The page of a directive. -/
def page (d : Directive α) : Page :=
  ⟨lineText d.header, d.further.map lineText⟩

end Directive

/-! ## The text of these lines -/

namespace Writer

variable {α : Type} [Scalar α]

theorem lineText_numbers (xs : List α) : lineText (xs.map number) = numbers xs := by
  rw [lineText, numbers, List.map_map]
  rfl

theorem lineText_vectorItems (v : Vec3 α) : lineText (vectorItems v) = vector v :=
  lineText_numbers [v.x, v.y, v.z]

theorem lineText_bracketed (items : List Item) :
    lineText (bracketed items) = "[ " ++ lineText items ++ " ]" := by
  have listed : lineText (if items.isEmpty then [.bare ""] else items) = lineText items := by
    cases items with
    | nil => rfl
    | cons i rest => rfl
  have some : (if items.isEmpty then [.bare ""] else items) ≠ [] := by
    cases items <;> simp
  rw [bracketed, lineText_cons _ (by simp), lineText_append some (by simp), listed,
    lineText_singleton]
  simp only [Item.text, String.append_assoc]
  rfl

/-- A keyword and numbers. -/
theorem lineText_withNumbers (keyword : String) (x : α) (xs : List α) :
    lineText (.bare keyword :: (x :: xs).map number) = keyword ++ " " ++ numbers (x :: xs) := by
  rw [lineText_cons _ (by simp), lineText_numbers]
  rfl

theorem bracketed_ne_nil (items : List Item) : bracketed items ≠ [] := by
  simp [bracketed]

/-- A keyword and numbers in brackets. -/
theorem lineText_matrix (keyword : String) (entries : List α) :
    lineText (.bare keyword :: bracketed (entries.map number)) =
      keyword ++ " [ " ++ numbers entries ++ " ]" := by
  rw [lineText_cons _ (bracketed_ne_nil _), lineText_bracketed, lineText_numbers]
  simp only [Item.text, String.append_assoc]
  rfl

theorem lineText_paramItems (p : Param α) : lineText (paramItems p) = p.text := by
  have values : lineText (p.values.map valueItem) =
      " ".intercalate (p.values.map Param.valueText) := by
    rw [lineText, List.map_map]
    congr 1
    refine List.map_congr_left fun v _ => ?_
    cases v with
    | number x => rfl
    | string s => rfl
    | bool b => cases b <;> rfl
  rw [paramItems, lineText_cons _ (by simp [bracketed]), lineText_bracketed, values, Param.text]
  simp only [Item.text, quoted, String.append_assoc]
  rfl

@[simp] theorem revisedEntity_false (header : String) (params : List (Param α))
    (rule : Rule α (List (Param α))) :
    revisedEntity false header params rule = plainEntity header params := rfl

@[simp] theorem renamedEntity_false (keyword name : String) (params : List (Param α))
    (rule : Rule α (Upgraded α)) : renamedEntity false keyword name params rule =
      plainEntity (keyword ++ " " ++ quoted name) params := rfl

/-- A directive that moves no scope is written as its page. -/
theorem puts_page {d : Directive α} (plain : d.scopeRole = .plain) (loc : Location α) :
    Puts (interpret false d loc) d.page := by
  have oneLine {text : String} {items : List Item} (same : lineText items = text) :
      Puts (line text : Write α Unit) ⟨lineText items, []⟩ := by
    rw [same]
    exact puts_line text
  have entity {header : String} {items : List Item} (params : List (Param α))
      (same : lineText items = header) :
      Puts (plainEntity header params) ⟨lineText items, (params.map paramItems).map lineText⟩ := by
    have texts : params.map Param.text = (params.map paramItems).map lineText := by
      simp [lineText_paramItems, Function.comp_def]
    rw [same, ← texts]
    exact puts_plainEntity header params
  cases d with
  | identity | reverseOrientation => exact oneLine (lineText_singleton _)
  | option name value =>
    exact oneLine (by simp [Directive.header, lineText_cons, Item.text, String.append_assoc])
  | translate v | scale v => exact oneLine (lineText_withNumbers _ v.x [v.y, v.z])
  | rotate degrees axis =>
    exact oneLine (lineText_withNumbers "Rotate" degrees [axis.x, axis.y, axis.z])
  | transformTimes opening closing =>
    exact oneLine (lineText_withNumbers "TransformTimes" opening [closing])
  | lookAt eye look up =>
    have header : lineText (.bare "LookAt" :: vectorItems eye) = "LookAt " ++ vector eye :=
      lineText_withNumbers "LookAt" eye.x [eye.y, eye.z]
    rw [Directive.page, Directive.header, header, Directive.further, List.map_cons, List.map_cons,
      lineText_vectorItems, lineText_vectorItems]
    exact puts_lookAt eye look up
  | concatTransform entries => exact oneLine (lineText_matrix "ConcatTransform" entries)
  | transform entries => exact oneLine (lineText_matrix "Transform" entries)
  | coordinateSystem name | coordSysTransform name | activeTransform slots | colorSpace name
  | namedMaterial name | objectInstance name =>
    exact oneLine (by simp [Directive.header, lineText_cons, Item.text])
  | mediumInterface inside outside =>
    exact oneLine (by simp [Directive.header, lineText_cons, Item.text, String.append_assoc])
  | film name ps | sampler name ps | accelerator name ps | makeNamedMedium name ps =>
    exact entity ps (by simp [Directive.header, lineText_cons, Item.text])
  -- without an upgrade, a rule is not even looked at
  | camera name ps | integrator name ps | material name ps | areaLightSource name ps =>
    rw [interpret, renamedEntity_false]
    exact entity ps (by simp [Directive.header, lineText_cons, Item.text])
  | pixelFilter name ps | makeNamedMaterial name ps | lightSource name ps | shape name ps =>
    rw [interpret, revisedEntity_false]
    exact entity ps (by simp [Directive.header, lineText_cons, Item.text])
  | texture name kind implementation ps =>
    exact entity ps (by
      simp [Directive.header, lineText_cons, Item.text, textureHeader, String.append_assoc])
  | attributes target ps =>
    have header : lineText [.bare "Attribute", .quoted target] = "Attribute " ++ quoted target := by
      simp [lineText_cons, Item.text]
    rcases ps with _ | ⟨p, _ | ⟨q, rest⟩⟩
    · exact entity [] header
    · have withParam : lineText (.bare "Attribute" :: .quoted target :: paramItems p) =
          "Attribute " ++ quoted target ++ " " ++ p.text := by
        rw [lineText_cons _ (by simp), lineText_cons _ (by simp [paramItems]), lineText_paramItems]
        simp [Item.text, String.append_assoc]
      exact oneLine withParam
    · exact entity (p :: q :: rest) header
  | worldBegin | worldEnd | attributeBegin | attributeEnd | transformBegin | transformEnd
  | objectBegin _ | objectEnd => simp [Directive.scopeRole] at plain

/-- What the writer comes to with a directive when it is not upgrading. -/
theorem wrote_page (d : Directive α) (loc : Location α) (o : OpenScopes α) :
    Wrote d d.page loc o ((interpret false d loc).run o) := by
  have word {text : String} (same : d.header = [.bare text]) (bare : d.further = []) :
      d.page = ⟨text, []⟩ := by
    rw [Directive.page, same, bare, lineText_singleton]
    rfl
  by_cases plain : d.scopeRole = .plain
  · exact .of_puts plain (puts_page plain loc)
  · -- what is left are the directives with scopes, of one line each
    cases d <;> first | exact absurd rfl plain | skip
    case worldBegin => exact word rfl rfl ▸ wrote_worldBegin loc o
    case worldEnd => exact word rfl rfl ▸ wrote_worldEnd loc o
    case attributeBegin => exact word rfl rfl ▸ wrote_attributeBegin loc o
    case attributeEnd => exact word rfl rfl ▸ @wrote_end α .attributeEnd .attributes rfl loc o
    case transformBegin => exact word rfl rfl ▸ wrote_begin rfl (by simp) _ loc o
    case transformEnd => exact word rfl rfl ▸ @wrote_end α .transformEnd .transforms rfl loc o
    case objectEnd => exact word rfl rfl ▸ @wrote_end α .objectEnd .object rfl loc o
    case objectBegin name =>
      have page : (Directive.objectBegin name : Directive α).page =
          ⟨"ObjectBegin " ++ quoted name, []⟩ := by
        simp [Directive.page, Directive.header, Directive.further, Directive.params, lineText_cons,
          Item.text]
      rw [page]
      exact wrote_begin rfl (by simp) _ loc o

end Writer

namespace Directive

open Writer

variable {α : Type} [Scalar α]

/-- The lines of a directive among a number of open scopes. -/
def lines (d : Directive α) (depth : Nat) : List (List Item) :=
  List.replicate d.emptyLinesBefore emptyLine ++
    indented (d.headerLevel depth) d.header ::
      d.further.map (indented (d.headerLevel depth + 1)) ++
    List.replicate d.emptyLinesAfter emptyLine

theorem leads_header (d : Directive α) : Leads d.header := by
  have word {w : String} {rest : List Item} (some : w ≠ "") : Leads (.bare w :: rest) :=
    ⟨_, _, rfl, by simpa using some⟩
  cases d with
  | attributes target ps =>
    rcases ps with _ | ⟨p, _ | ⟨q, rest⟩⟩ <;> exact word (by decide)
  | _ => exact word (by decide)

theorem leads_further [LawfulText α] (d : Directive α) : ∀ l ∈ d.further, Leads l := by
  have params (ps : List (Param α)) : ∀ l ∈ ps.map paramItems, Leads l := by
    intro l hl
    obtain ⟨p, -, rfl⟩ := List.mem_map.1 hl
    exact ⟨_, _, rfl, by simp⟩
  have row (v : Vec3 α) : Leads (vectorItems v) :=
    ⟨_, _, rfl, by simpa [number] using LawfulText.text_ne_empty v.x⟩
  cases d with
  | lookAt eye look up =>
    intro l hl
    rcases List.mem_cons.1 hl with rfl | hl
    · exact row look
    · rw [List.mem_singleton.1 hl]
      exact row up
  | attributes target ps =>
    rcases ps with _ | ⟨p, _ | ⟨q, rest⟩⟩
    · exact params []
    · exact params []
    · exact params (p :: q :: rest)
  | _ => exact params _

variable [LawfulText α]

/-- The lines have the text that the writer puts out. -/
theorem linesText_lines (d : Directive α) (depth : Nat) :
    linesText (d.lines depth) = d.sheet d.page depth := by
  have header : linesText [indented (d.headerLevel depth) d.header] =
      lineAt (d.headerLevel depth) (lineText d.header) := by
    have leads : ∀ l ∈ [d.header], Leads l := by simpa using d.leads_header
    simpa using linesText_indented (d.headerLevel depth) leads
  have further := linesText_indented (d.headerLevel depth + 1) d.leads_further
  rw [lines, sheet, Page.text, page, linesText_append, linesText_append, linesText_emptyLines,
    linesText_emptyLines, ← List.singleton_append, linesText_append, header, further]

/-- Without indentation and empty lines, the header and the further lines are left. -/
theorem significant_lines (d : Directive α) (depth : Nat) :
    significant (d.lines depth) = d.header :: d.further := by
  have leads : ∀ l ∈ [d.header], Leads l := by simpa using d.leads_header
  have header := significant_indented (d.headerLevel depth) leads
  have further := significant_indented (d.headerLevel depth + 1) d.leads_further
  rw [List.map_singleton] at header
  rw [lines, significant_append, significant_append, significant_emptyLines, significant_emptyLines,
    ← List.singleton_append, significant_append, header, further]
  simp

end Directive

end SceneScript
