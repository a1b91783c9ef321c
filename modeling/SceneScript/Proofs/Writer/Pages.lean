import SceneScript.Proofs.Builder.ScopeStacks
import SceneScript.Proofs.Upgrade.Rules
import SceneScript.Proofs.Writer.Runs

/-!
# Pages

What the writer puts out for a directive is a page: a header line, and further lines one level
deeper. `Drafted` says that an action of the writer has nothing to decide while it writes: it is
refused before its first chunk, or it puts out a page that is the same at every depth and at every
place. Every directive that moves no scope is drafted (`drafted_interpret`).
-/

set_option autoImplicit false

namespace SceneScript

/-! ## Lines -/

/-- A line of text at a level of indentation. -/
def lineAt (level : Nat) (text : String) : String :=
  blanks (indentWidth * level) ++ text ++ "\n"

/-- The lines of a directive. -/
structure Page where
  header : String
  further : List String

/-- The text of a page whose header stands at a level. -/
def Page.text (p : Page) (level : Nat) : String :=
  lineAt level p.header ++ String.join (p.further.map (lineAt (level + 1)))

/-- The four blanks that one level more makes. -/
theorem blanks_next (level : Nat) :
    blanks (indentWidth * (level + 1)) = blanks (indentWidth * level) ++ "    " := by
  rw [blanks, blanks, Nat.mul_succ, ← List.replicate_append_replicate, String.ofList_append]
  rfl

/-- A text that may fill a line. -/
structure Alphabet.Prints {α : Type} [Scalar α] (A : Alphabet α) (text : String) : Prop where
  spells : A.Spells text
  starts : A.Starts text

/-- A page of such lines. -/
structure Page.Spelled {α : Type} [Scalar α] (A : Alphabet α) (p : Page) : Prop where
  header : A.Prints p.header
  further : ∀ text ∈ p.further, A.Prints text

namespace Alphabet

variable {α : Type} [Scalar α] {A : Alphabet α}

theorem Prints.append {s t : String} (hs : A.Prints s) (ht : A.Spells t) : A.Prints (s ++ t) :=
  ⟨hs.spells.append ht, A.starts_append t hs.starts⟩

/-- A word of the library that begins with no blank. -/
theorem prints_word {s : String} (line : '\n' ∉ s.toList)
    (starts : (s.toList.head?.any fun c => c != ' ') = true) : A.Prints s := by
  refine ⟨A.spells_of_line line, ?_⟩
  cases head : s.toList.head? with
  | none => simp [head] at starts
  | some c => exact A.starts_of_head head (by simpa [head] using starts)

theorem spells_quoted {s : String} (hs : A.Spells s) : A.Spells (Writer.quoted s) :=
  ((A.spells_of_line (by simp)).append hs).append (A.spells_of_line (by simp))

theorem spells_numbers (xs : List α) : A.Spells (Writer.numbers xs) := by
  refine Spells.intercalate (A.spells_of_line (by simp)) fun s hs => ?_
  obtain ⟨x, -, rfl⟩ := List.mem_map.1 hs
  exact A.spells_number x

theorem prints_vector (v : Vec3 α) : A.Prints (Writer.vector v) := by
  refine ⟨spells_numbers _, ?_⟩
  rw [Writer.vector, Writer.numbers, List.map_cons, List.map_cons, String.intercalate_cons_cons,
    String.append_assoc]
  exact A.starts_append _ (A.starts_number v.x)

theorem prints_param {p : Param α} (hp : p.Spelled A) : A.Prints p.text :=
  ⟨hp.text, A.starts_of_head (c := '"') (by simp [Param.text]) (by decide)⟩

theorem SpellsAll.prints {ps : List (Param α)} (hps : A.SpellsAll ps) :
    ∀ text ∈ ps.map Param.text, A.Prints text := by
  intro text h
  obtain ⟨p, hp, rfl⟩ := List.mem_map.1 h
  exact prints_param (hps p hp)

end Alphabet

/-! ## Texts of directives -/

namespace Directive

variable {α : Type}

/-- The names and other texts of a directive that are written in quotation marks. -/
def names : Directive α → List String
  | option name _ | coordinateSystem name | coordSysTransform name | colorSpace name
  | camera name _ | film name _ | sampler name _ | pixelFilter name _ | integrator name _
  | accelerator name _ | attributes name _ | material name _ | makeNamedMaterial name _
  | namedMaterial name | makeNamedMedium name _ | lightSource name _ | areaLightSource name _
  | shape name _ | objectBegin name | objectInstance name => [name]
  | texture name kind implementation _ => [name, kind, implementation]
  | mediumInterface inside outside => [inside, outside]
  | _ => []

/-- The value of an option, which is written as it is. -/
def optionValue? : Directive α → Option String
  | option _ value => some value
  | _ => none

/-- The parameters of a directive. -/
def params : Directive α → List (Param α)
  | camera _ params | film _ params | sampler _ params | pixelFilter _ params
  | integrator _ params | accelerator _ params | attributes _ params | texture _ _ _ params
  | material _ params | makeNamedMaterial _ params | makeNamedMedium _ params
  | lightSource _ params | areaLightSource _ params | shape _ params => params
  | _ => []

/-- A directive whose texts are spelled in an alphabet. -/
structure Spelled [Scalar α] (A : Alphabet α) (d : Directive α) : Prop where
  names : ∀ name ∈ d.names, A.Spells name
  value : ∀ value ∈ d.optionValue?, A.Spells value
  params : A.SpellsAll d.params

theorem spelled_full [Scalar α] (d : Directive α) : d.Spelled Alphabet.full :=
  ⟨fun _ _ _ _ => trivial, fun _ _ _ _ => trivial,
    fun _ _ => ⟨fun _ _ => trivial, fun _ _ => trivial, fun _ _ _ _ => trivial⟩⟩

end Directive

namespace Writer

variable {α : Type}

/-! ## Actions that write a page -/

/-- An action that puts out a text from the given scopes, and does nothing else. -/
def WritesAt (o : OpenScopes α) (act : Write α Unit) (text : String) : Prop :=
  ∃ ns, act.run o = ⟨.ok (), o, ns⟩ ∧ textOf ns = text

/-- An action that writes a page at the depth of the open scopes. -/
def Puts (act : Write α Unit) (p : Page) : Prop :=
  ∀ o, WritesAt o act (p.text o.depth)

namespace WritesAt

variable {o : OpenScopes α} {s t : String}

theorem write (text : String) : WritesAt o (Writer.write text) text :=
  ⟨_, rfl, by simp [WriteNotice.text]⟩

theorem line (text : String) : WritesAt o (Writer.line text) (lineAt o.depth text) :=
  write (lineAt o.depth text)

theorem bind {act act' : Write α Unit} (first : WritesAt o act s) (second : WritesAt o act' t) :
    WritesAt o (act >>= fun _ => act') (s ++ t) := by
  obtain ⟨ns, run, rfl⟩ := first
  obtain ⟨ms, run', rfl⟩ := second
  refine ⟨ns ++ ms, ?_, textOf_append ns ms⟩
  rw [Action.run_bind_of_eq_ok run, run']

/-- A text that is written on a condition only, and is empty otherwise. -/
theorem optional {c : Prop} [Decidable c] {act : Write α Unit} {next : Unit → Write α Unit}
    (first : WritesAt o act s) (otherwise : ¬ c → s = "") (second : WritesAt o (next ()) t) :
    WritesAt o (if c then act >>= next else next ()) (s ++ t) := by
  by_cases h : c
  · simpa only [h, if_true] using first.bind second
  · simpa only [h, if_false, otherwise h, String.empty_append] using second

/-- What is written after messages. -/
theorem after_messages {β : Type} {act : Write α β} {b : β} {ms : List (Message α)}
    {next : β → Write α Unit} (first : act.run o = ⟨.ok b, o, ms.map .message⟩)
    (second : WritesAt o (next b) t) : WritesAt o (act >>= next) t := by
  obtain ⟨ns, run, rfl⟩ := second
  refine ⟨ms.map .message ++ ns, ?_, by simp⟩
  rw [Action.run_bind_of_eq_ok first, run]

end WritesAt

theorem puts_line (text : String) : Puts (line text : Write α Unit) ⟨text, []⟩ := by
  intro o
  simpa [Page.text] using WritesAt.line text

@[simp] theorem params_dictionary (params : List (Param α)) :
    (dictionary params).params = params := by
  simp [dictionary, Dictionary.ofParams, Dictionary.params, Dictionary.entries, Function.comp_def]

variable [Scalar α]

theorem puts_lookAt (eye look up : Vec3 α) : Puts (writeLookAt eye look up)
    ⟨"LookAt " ++ vector eye, [vector look, vector up]⟩ := by
  intro o
  have deeper (text : String) : lineAt o.depth ("    " ++ text) = lineAt (o.depth + 1) text := by
    simp only [lineAt, blanks_next, String.append_assoc]
  have lines : WritesAt o (writeLookAt eye look up) _ :=
    (WritesAt.line ("LookAt " ++ vector eye)).bind
      ((WritesAt.line ("    " ++ vector look)).bind (WritesAt.line ("    " ++ vector up)))
  simpa [Page.text, deeper] using lines

/-- The header, the definitions and the remaining parameters make up one page, although their
indentation is computed in three ways. -/
theorem puts_entity (header : String) (definitions : List (Param α)) (d : Dictionary α) :
    Puts (entity header definitions d) ⟨header, (definitions ++ d.params).map Param.text⟩ := by
  intro o
  have defined : String.join (definitions.map fun p => o.indent 1 ++ p.text ++ "\n") =
      String.join ((definitions.map Param.text).map (lineAt (o.depth + 1))) := by
    rw [List.map_map]
    rfl
  have listed : d.listing (o.depth * indentWidth) =
      String.join ((d.params.map Param.text).map (lineAt (o.depth + 1))) := by
    rw [Dictionary.listing, Dictionary.lines, Nat.mul_comm, ← Nat.mul_succ, List.map_map]
    rfl
  have sized : d.size = d.params.length := by
    simp [Dictionary.size, Dictionary.params, Dictionary.entries]
  -- a part that is not written has no lines
  have parameters : WritesAt o
      (if d.size ≠ 0 then write (d.listing (o.depth * indentWidth)) else pure ())
      (d.listing (o.depth * indentWidth)) := by
    by_cases left : d.size = 0
    · rw [sized, List.length_eq_zero_iff] at left
      exact ⟨[], by simp [sized, left], by simp [listed, left]⟩
    · rw [if_pos left]
      exact .write _
  have extras : definitions.isEmpty = true →
      String.join (definitions.map fun p => o.indent 1 ++ p.text ++ "\n") = "" := by
    simp +contextual
  have parts : WritesAt o (entity header definitions d) _ :=
    (WritesAt.line header).bind (.optional (.write _) (fun none => extras (by simpa using none))
      parameters)
  have page : Page.text ⟨header, (definitions ++ d.params).map Param.text⟩ o.depth =
      lineAt o.depth header ++
        (String.join (definitions.map fun p => o.indent 1 ++ p.text ++ "\n") ++
          d.listing (o.depth * indentWidth)) := by
    rw [defined, listed, Page.text, List.map_append, List.map_append, String.join_append]
  rw [page]
  exact parts

/-- Without an upgrade, the parameters are written as they are. -/
theorem puts_plainEntity (header : String) (params : List (Param α)) :
    Puts (plainEntity header params) ⟨header, params.map Param.text⟩ := by
  have put := puts_entity header [] (dictionary params)
  rw [List.nil_append, params_dictionary] at put
  exact put

theorem puts_attributes (target : String) (params : List (Param α)) :
    Puts (writeAttributes target params)
      (match params with
        | [p] => ⟨"Attribute " ++ quoted target ++ " " ++ p.text, []⟩
        | _ => ⟨"Attribute " ++ quoted target, params.map Param.text⟩) := by
  rcases params with _ | ⟨p, _ | ⟨q, rest⟩⟩
  · exact puts_plainEntity _ _
  · exact puts_line _
  · exact puts_plainEntity _ _

/-! ## Drafts -/

/-- An action of the writer that is refused, or puts out a page, whatever the open scopes and the
place. What is refused has only given messages before. -/
inductive Drafted (A : Alphabet α) (upgrading : Bool) (act : Location α → Write α Unit) : Prop
  | refuses : upgrading = true → (∀ loc, ∃ e, ∃ ms : List (Message α), ∀ o,
      (act loc).run o = ⟨.error (refusal e), o, ms.map .message⟩) → Drafted A upgrading act
  | puts (p : Page) : p.Spelled A → (∀ loc, Puts (act loc) p) → Drafted A upgrading act

variable {A : Alphabet α} {upgrading : Bool}

theorem drafted_line {text : String} (printed : A.Prints text) :
    Drafted A upgrading (fun _ => (line text : Write α Unit)) :=
  .puts ⟨text, []⟩ ⟨printed, by simp⟩ fun _ => puts_line text

theorem drafted_plainEntity {header : String} {params : List (Param α)} (printed : A.Prints header)
    (spelled : A.SpellsAll params) : Drafted A upgrading (fun _ => plainEntity header params) :=
  .puts _ ⟨printed, spelled.prints⟩ fun _ => puts_plainEntity header params

/-- Applying a rule refuses the directive, or finishes after messages, whatever the open scopes. -/
theorem applyRule_of_settles {β : Type} {gives : β → Prop} {rule : Location α → Rule α β}
    {params : List (Param α)} (settles : Rule.Settles A gives rule)
    (spelled : A.SpellsAll params) :
    (∀ loc, ∃ e, ∃ ms : List (Message α), ∀ o, (applyRule (rule loc) params).run o =
      ⟨.error (refusal e), o, ms.map .message⟩) ∨
    ∃ b d, gives b ∧ d.Spelled A ∧ ∀ loc, ∃ ms : List (Message α), ∀ o,
      (applyRule (rule loc) params).run o = ⟨.ok (b, d), o, ms.map .message⟩ := by
  have start : (dictionary params).Spelled A := by
    unfold Dictionary.Spelled
    rw [params_dictionary]
    exact spelled
  cases settles _ start with
  | refuses h =>
    refine Or.inl fun loc => ?_
    obtain ⟨e, he⟩ := h loc
    exact ⟨e, _, fun o => Action.run_runOn_of_error refusal WriteNotice.message o he⟩
  | finishes b d value left h =>
    refine Or.inr ⟨b, d, value, left, fun loc => ?_⟩
    obtain ⟨result, rfl⟩ := h loc
    exact ⟨_, fun o => Action.run_runOn_of_ok refusal WriteNotice.message o result⟩

/-- A rule, and what is written of its outcome. -/
theorem drafted_applyRule {β : Type} {gives : β → Prop} {rule : Location α → Rule α β}
    {params : List (Param α)} (header : β → String) (definitions : β → List (Param α))
    (settles : Rule.Settles A gives rule) (spelled : A.SpellsAll params)
    (printed : ∀ b, gives b → A.Prints (header b))
    (defined : ∀ b, gives b → A.SpellsAll (definitions b)) :
    Drafted A true (fun loc => do
      let (b, d) ← applyRule (rule loc) params
      entity (header b) (definitions b) d) := by
  rcases applyRule_of_settles settles spelled with refuses | ⟨b, d, value, left, finishes⟩
  · refine .refuses rfl fun loc => ?_
    obtain ⟨e, ms, run⟩ := refuses loc
    exact ⟨e, ms, fun o => Action.run_bind_of_eq_error (run o)⟩
  · have texts := ((defined b value).append left).prints
    refine .puts ⟨_, _⟩ ⟨printed b value, texts⟩ fun loc o => ?_
    obtain ⟨ms, run⟩ := finishes loc
    exact .after_messages (run o) (puts_entity (header b) (definitions b) d o)

theorem drafted_revisedEntity {rule : Location α → Rule α (List (Param α))} {header : String}
    {params : List (Param α)} (settles : Rule.Settles A A.SpellsAll rule)
    (printed : A.Prints header) (spelled : A.SpellsAll params) :
    Drafted A upgrading (fun loc => revisedEntity upgrading header params (rule loc)) := by
  cases upgrading with
  | false => exact drafted_plainEntity printed spelled
  | true =>
    simp only [revisedEntity, if_true]
    exact drafted_applyRule (fun _ => header) (fun ps => ps) settles spelled (fun _ _ => printed)
      fun _ definitions => definitions

theorem drafted_renamedEntity {rule : Location α → Rule α (Upgraded α)} {keyword name : String}
    {params : List (Param α)} (settles : Rule.Settles A (Upgraded.Spelled A) rule)
    (word : A.Prints keyword) (spells : A.Spells name) (spelled : A.SpellsAll params) :
    Drafted A upgrading
      (fun loc => renamedEntity upgrading keyword name params (rule loc)) := by
  have header {name : String} (spells : A.Spells name) : A.Prints (keyword ++ " " ++ quoted name) :=
    (word.append (A.spells_of_line (by simp))).append (A.spells_quoted spells)
  cases upgrading with
  | false => exact drafted_plainEntity (header spells) spelled
  | true =>
    simp only [renamedEntity, if_true]
    exact drafted_applyRule (fun u : Upgraded α => keyword ++ " " ++ quoted u.name)
      Upgraded.definitions settles spelled (fun _ upgraded => header upgraded.name)
      fun _ upgraded => upgraded.definitions

end Writer

end SceneScript
