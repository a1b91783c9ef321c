import SceneScript.Proofs.Writer.Pages

/-!
# What a directive comes to in the writer

A directive that an upgrade refuses is refused wherever it stands. Any other directive has a page of
its own: the writer puts it out, at a level and between blank lines that the directive and the
number of open scopes determine, and moves the scopes; only an End may find no scope of its kind
(`refused_or_written`). Modules about runs of the writer work from this list of cases.
-/

set_option autoImplicit false

namespace SceneScript

namespace Directive

variable {α : Type}

/-- The open scopes after a directive that was written. -/
def moveScopes (d : Directive α) (loc : Location α) (o : OpenScopes α) : OpenScopes α :=
  match d.scopeRole with
  | .opens kind => o.push kind loc
  | .closes _ => ⟨o.scopes.tail⟩
  | .endsWorld => .none
  | .plain | .startsWorld => o

/-- The level of a directive's header among a number of open scopes: an End stands at the level of
its Begin, and WorldBegin stands at the margin. -/
def headerLevel (d : Directive α) (depth : Nat) : Nat :=
  match d.scopeRole with
  | .startsWorld => 0
  | .closes _ => depth - 1
  | .opens _ | .endsWorld | .plain => depth

/-- The number of empty lines before the header. -/
def emptyLinesBefore (d : Directive α) : Nat :=
  match d.scopeRole with
  | .startsWorld => 2
  | .opens .attributes => 1
  | _ => 0

/-- The number of empty lines after the page. -/
def emptyLinesAfter (d : Directive α) : Nat :=
  match d.scopeRole with
  | .startsWorld => 1
  | _ => 0

/-- The text of a directive with a given page among a number of open scopes. -/
def sheet (d : Directive α) (p : Page) (depth : Nat) : String :=
  String.ofList (List.replicate d.emptyLinesBefore '\n') ++ p.text (d.headerLevel depth) ++
    String.ofList (List.replicate d.emptyLinesAfter '\n')

theorem sheet_of_plain {d : Directive α} (plain : d.scopeRole = .plain) (p : Page) (depth : Nat) :
    d.sheet p depth = p.text depth := by
  simp [sheet, emptyLinesBefore, emptyLinesAfter, headerLevel, plain]

end Directive

namespace Writer

variable {α : Type}

/-! ## Scopes -/

theorem run_closeScope_of_error {kind : ScopeKind} {loc : Location α} {o : OpenScopes α}
    {reason : ScopeError α} (pop : o.pop kind = .error reason) :
    (closeScope kind loc).run o = ⟨.error ⟨loc, .scope reason⟩, o, []⟩ := by
  simp [closeScope, Action.run_get_bind, pop]

theorem run_closeScope_of_ok {kind : ScopeKind} {loc : Location α} {o rest : OpenScopes α}
    {s : Scope α} (pop : o.pop kind = .ok (s, rest)) :
    (closeScope kind loc).run o = ⟨.ok (), rest, []⟩ := by
  simp [closeScope, Action.run_get_bind, pop]

/-- What the writer comes to with a directive that no upgrade refuses. -/
inductive Wrote (d : Directive α) (p : Page) (loc : Location α) (o : OpenScopes α) :
    Outcome (WriteError α) (OpenScopes α) (WriteNotice α) Unit → Prop
  | unmatched {kind : ScopeKind} {reason : ScopeError α} : d.scopeRole = .closes kind →
      o.pop kind = .error reason → Wrote d p loc o ⟨.error ⟨loc, .scope reason⟩, o, []⟩
  | written {ns : List (WriteNotice α)} :
      (∀ kind, d.scopeRole = .closes kind → ∃ s rest, o.pop kind = .ok (s, rest)) →
      textOf ns = d.sheet p o.depth → Wrote d p loc o ⟨.ok (), d.moveScopes loc o, ns⟩

/-- A directive that moves no scope comes to what its page says. -/
theorem Wrote.of_puts {d : Directive α} {p : Page} {loc : Location α} {o : OpenScopes α}
    {act : Write α Unit} (plain : d.scopeRole = .plain) (puts : Puts act p) :
    Wrote d p loc o (act.run o) := by
  obtain ⟨ns, run, text⟩ := puts o
  have stay : d.moveScopes loc o = o := by simp [Directive.moveScopes, plain]
  have written : Wrote d p loc o ⟨.ok (), d.moveScopes loc o, ns⟩ :=
    .written (fun kind closes => by simp [plain] at closes)
      (by rw [text, d.sheet_of_plain plain])
  rw [stay] at written
  rw [run]
  exact written

theorem wrote_begin {d : Directive α} {kind : ScopeKind} (opens : d.scopeRole = .opens kind)
    (other : kind ≠ .attributes) (text : String) (loc : Location α) (o : OpenScopes α) :
    Wrote d ⟨text, []⟩ loc o ((writeBegin kind text loc).run o) := by
  have run : (writeBegin kind text loc).run o =
      ⟨.ok (), d.moveScopes loc o, [.chunk (lineAt o.depth text)]⟩ := by
    rw [Directive.moveScopes, opens]
    rfl
  rw [run]
  refine .written (fun k closes => by simp [opens] at closes) ?_
  cases kind <;> first
    | exact absurd rfl other
    | simp [WriteNotice.text, Directive.sheet, Directive.emptyLinesBefore,
        Directive.emptyLinesAfter, Directive.headerLevel, opens, Page.text]

theorem wrote_attributeBegin (loc : Location α) (o : OpenScopes α) :
    Wrote .attributeBegin ⟨"AttributeBegin", []⟩ loc o ((writeAttributeBegin loc).run o) := by
  have run : (writeAttributeBegin loc).run o = ⟨.ok (), Directive.attributeBegin.moveScopes loc o,
      [.chunk ("\n" ++ o.indent 0 ++ "AttributeBegin\n")]⟩ := rfl
  rw [run]
  refine .written (fun k closes => by simp [Directive.scopeRole] at closes) ?_
  simp [WriteNotice.text, Directive.sheet, Directive.emptyLinesBefore, Directive.emptyLinesAfter,
    Directive.headerLevel, Directive.scopeRole, Page.text, lineAt, OpenScopes.indent,
    String.append_assoc]

theorem wrote_end {d : Directive α} {kind : ScopeKind} (closes : d.scopeRole = .closes kind)
    (loc : Location α) (o : OpenScopes α) :
    Wrote d ⟨kind.endWord, []⟩ loc o ((writeEnd kind loc).run o) := by
  cases pop : o.pop kind with
  | error reason =>
    rw [writeEnd, Action.run_bind_of_eq_error (run_closeScope_of_error pop)]
    exact .unmatched closes pop
  | ok closed =>
    obtain ⟨s, rest⟩ := closed
    obtain ⟨scopes, -⟩ := OpenScopes.pop_eq_ok_iff.1 pop
    -- the line stands at the depth that the End leaves
    have run : (writeEnd kind loc).run o =
        ⟨.ok (), d.moveScopes loc o, [.chunk (lineAt rest.depth kind.endWord)]⟩ := by
      rw [writeEnd, Action.run_bind_of_eq_ok (run_closeScope_of_ok pop), Directive.moveScopes,
        closes, scopes]
      rfl
    have level : d.headerLevel o.depth = rest.depth := by
      simp [Directive.headerLevel, closes, OpenScopes.depth, scopes]
    rw [run]
    refine .written (fun k closes' => ⟨s, rest, ?_⟩) ?_
    · obtain rfl : kind = k := by simpa [closes] using closes'
      exact pop
    · simp [WriteNotice.text, Directive.sheet, level, Directive.emptyLinesBefore,
        Directive.emptyLinesAfter, closes, Page.text]

theorem wrote_worldBegin (loc : Location α) (o : OpenScopes α) :
    Wrote .worldBegin ⟨"WorldBegin", []⟩ loc o ((write "\n\nWorldBegin\n\n").run o) := by
  have run : (write "\n\nWorldBegin\n\n").run o =
      ⟨.ok (), Directive.worldBegin.moveScopes loc o, [.chunk "\n\nWorldBegin\n\n"]⟩ := rfl
  rw [run]
  refine .written (fun k closes => by simp [Directive.scopeRole] at closes) ?_
  simp [WriteNotice.text, Directive.sheet, Directive.emptyLinesBefore, Directive.emptyLinesAfter,
    Directive.headerLevel, Directive.scopeRole, Page.text, lineAt]
  rfl

/-- Reporting what was left open gives a message for each scope. -/
theorem run_reportForgotten (scopes : List (Scope α)) (o : OpenScopes α) :
    (Action.forEach reportForgotten scopes).run o =
      ⟨.ok (), o, scopes.map fun s =>
        .message ⟨.warning, "Missing end to " ++ s.kind.beginWord, some s.loc⟩⟩ := by
  induction scopes with
  | nil => rfl
  | cons s rest ih =>
    have first : (reportForgotten s).run o = ⟨.ok (), o,
        [.message ⟨.warning, "Missing end to " ++ s.kind.beginWord, some s.loc⟩]⟩ := rfl
    rw [Action.forEach_cons, Action.run_bind_of_eq_ok first, ih]
    rfl

theorem wrote_worldEnd (loc : Location α) (o : OpenScopes α) :
    Wrote .worldEnd ⟨"WorldEnd", []⟩ loc o (writeWorldEnd.run o) := by
  have run : writeWorldEnd.run o =
      ⟨.ok (), .none, .chunk (lineAt o.depth "WorldEnd") :: o.scopes.map fun s =>
        .message ⟨.warning, "Missing end to " ++ s.kind.beginWord, some s.loc⟩⟩ := by
    simp [writeWorldEnd, line, write, Action.run_bind, OpenScopes.closeAll, run_reportForgotten,
      lineAt, OpenScopes.indent]
  rw [run]
  refine .written (fun k closes => by simp [Directive.scopeRole] at closes) ?_
  have silent : textOf (o.scopes.map fun s => WriteNotice.message
      ⟨.warning, "Missing end to " ++ s.kind.beginWord, some s.loc⟩) = "" := by
    refine textOf_eq_empty fun n hn => ?_
    obtain ⟨s, -, rfl⟩ := List.mem_map.1 hn
    rfl
  simp [WriteNotice.text, Directive.sheet, Directive.emptyLinesBefore, Directive.emptyLinesAfter,
    Directive.headerLevel, Directive.scopeRole, Page.text, silent]

/-! ## Directives that move no scope -/

variable [Scalar α] {A : Alphabet α} {upgrading : Bool}

theorem settles_namedMaterialRule :
    Rule.Settles A A.SpellsAll (fun loc => namedMaterialRule loc) := by
  unfold namedMaterialRule
  refine (Rule.Settles.oneString "type").bind fun type spells => ?_
  refine (Upgrade.settles_material spells).bind fun upgraded spelled => ?_
  refine (Rule.Settles.remove "string" "type").bind fun _ _ => .pure ?_
  exact .cons (spelled_string (by simp) (by simp) spelled.name) spelled.definitions

theorem drafted_attributes {target : String} {params : List (Param α)} (spells : A.Spells target)
    (spelled : A.SpellsAll params) :
    Drafted A upgrading (fun _ => writeAttributes target params) := by
  have header : A.Prints ("Attribute " ++ quoted target) :=
    (A.prints_word (by simp) (by simp)).append (A.spells_quoted spells)
  refine .puts _ ?_ fun _ => puts_attributes target params
  split
  · rename_i p
    have one : A.Spells p.text := (spelled p List.mem_cons_self).text
    exact ⟨(header.append (A.spells_of_line (by simp))).append one, by simp⟩
  · exact ⟨header, spelled.prints⟩

theorem drafted_texture {name kind implementation : String} {params : List (Param α)}
    (spellsName : A.Spells name) (spellsKind : A.Spells kind)
    (spellsImplementation : A.Spells implementation) (spelled : A.SpellsAll params) :
    Drafted A upgrading (fun _ => writeTexture upgrading name kind implementation params) := by
  have printed {kind : String} (spells : A.Spells kind) :
      A.Prints (textureHeader name kind implementation) :=
    have blank : A.Spells " " := A.spells_of_line (by simp)
    have title : A.Prints ("Texture " ++ quoted name) :=
      (A.prints_word (by simp) (by simp)).append (A.spells_quoted spellsName)
    (((title.append blank).append (A.spells_quoted spells)).append blank).append
      (A.spells_quoted spellsImplementation)
  have revised {params : List (Param α)} (spelled : A.SpellsAll params) :
      Drafted A true (fun _ => revisedEntity true
        (textureHeader name (Upgrade.textureKindName kind) implementation) params
        (Upgrade.texture implementation)) :=
    drafted_revisedEntity (Upgrade.settles_texture implementation)
      (printed (Upgrade.spells_textureKindName spellsKind)) spelled
  cases upgrading with
  | false => exact drafted_plainEntity (printed spellsKind) spelled
  | true =>
    unfold writeTexture
    -- the operands of a scaled texture are looked at before the rule is run
    by_cases scaled : implementation = "scale"
    · cases operands : Upgrade.scaledTexture name kind params with
      | error e =>
        have refused : Action.ofExcept
            (((.error e : Except (UpgradeError α) _)).mapError refusal) =
              (Action.fail (refusal e) : Write α (List (Param α))) := rfl
        refine .refuses rfl fun _ => ⟨e, [], fun o => ?_⟩
        simp [scaled, Action.run_bind, refused]
      | ok params' =>
        have present : Action.ofExcept
            (((.ok params' : Except (UpgradeError α) _)).mapError refusal) =
              (pure params' : Write α (List (Param α))) := rfl
        simpa [scaled, present] using revised (Upgrade.spellsAll_scaledTexture spelled operands)
    · simpa [scaled] using revised spelled

/-- Every directive that moves no scope is drafted. -/
theorem drafted_interpret (upgrading : Bool) {d : Directive α} (plain : d.scopeRole = .plain)
    (spelled : d.Spelled A) : Drafted A upgrading (interpret upgrading d) := by
  obtain ⟨names, value, params⟩ := spelled
  have blank : A.Spells " " := A.spells_of_line (by simp)
  have close : A.Spells " ]" := A.spells_of_line (by simp)
  -- a keyword with what follows it on its line
  have numbered {keyword : String} (word : A.Prints keyword) (xs : List α) :
      A.Prints (keyword ++ numbers xs) := word.append (A.spells_numbers xs)
  have named {keyword name : String} (word : A.Prints keyword) (spells : A.Spells name) :
      A.Prints (keyword ++ quoted name) := word.append (A.spells_quoted spells)
  cases d with
  | identity | reverseOrientation => exact drafted_line (A.prints_word (by simp) (by simp))
  | option name text =>
    have first := names name List.mem_cons_self
    have title : A.Prints ("Option " ++ quoted name) :=
      named (A.prints_word (by simp) (by simp)) first
    exact drafted_line ((title.append blank).append (value text rfl))
  | translate v | scale v | rotate _ v =>
    exact drafted_line (numbered (A.prints_word (by simp) (by simp)) _)
  | transformTimes opening closing =>
    exact drafted_line (numbered (A.prints_word (by simp) (by simp)) _)
  | lookAt eye look up =>
    have first : A.Prints ("LookAt " ++ vector eye) :=
      numbered (A.prints_word (by simp) (by simp)) _
    refine .puts _ ⟨first, ?_⟩ fun _ => puts_lookAt eye look up
    intro text h
    rcases List.mem_cons.1 h with rfl | h
    · exact A.prints_vector look
    · rw [List.mem_singleton.1 h]
      exact A.prints_vector up
  | concatTransform entries | transform entries =>
    exact drafted_line ((numbered (A.prints_word (by simp) (by simp)) entries).append close)
  | coordinateSystem name | coordSysTransform name | colorSpace name | namedMaterial name
  | objectInstance name =>
    have first := names name List.mem_cons_self
    exact drafted_line (named (A.prints_word (by simp) (by simp)) first)
  | activeTransform slots =>
    have word : A.Spells slots.name := A.spells_of_line (by cases slots <;> simp [SlotWord.name])
    exact drafted_line ((A.prints_word (by simp) (by simp)).append word)
  | mediumInterface inside outside =>
    have first := names inside List.mem_cons_self
    have second := names outside (by simp [Directive.names])
    have title : A.Prints ("MediumInterface " ++ quoted inside) :=
      named (A.prints_word (by simp) (by simp)) first
    exact drafted_line ((title.append blank).append (A.spells_quoted second))
  | film name ps =>
    have first := names name List.mem_cons_self
    have current : A.Spells (if upgrading then Upgrade.filmName name else name) := by
      split
      · exact Upgrade.spells_filmName first
      · exact first
    exact drafted_plainEntity (named (A.prints_word (by simp) (by simp)) current) params
  | sampler name ps =>
    have first := names name List.mem_cons_self
    have current : A.Spells (if upgrading then Upgrade.samplerName name else name) := by
      split
      · exact Upgrade.spells_samplerName first
      · exact first
    exact drafted_plainEntity (named (A.prints_word (by simp) (by simp)) current) params
  | accelerator name ps | makeNamedMedium name ps =>
    have first := names name List.mem_cons_self
    exact drafted_plainEntity (named (A.prints_word (by simp) (by simp)) first) params
  | pixelFilter name ps =>
    have first := names name List.mem_cons_self
    exact drafted_revisedEntity (Upgrade.settles_pixelFilter name)
      (named (A.prints_word (by simp) (by simp)) first) params
  | makeNamedMaterial name ps =>
    have first := names name List.mem_cons_self
    exact drafted_revisedEntity settles_namedMaterialRule
      (named (A.prints_word (by simp) (by simp)) first) params
  | lightSource name ps =>
    have first := names name List.mem_cons_self
    exact drafted_revisedEntity (Upgrade.settles_light name)
      (named (A.prints_word (by simp) (by simp)) first) params
  | shape name ps =>
    have first := names name List.mem_cons_self
    exact drafted_revisedEntity (Upgrade.settles_shape name)
      (named (A.prints_word (by simp) (by simp)) first) params
  | camera name ps =>
    have first := names name List.mem_cons_self
    exact drafted_renamedEntity (Upgrade.settles_camera first)
      (A.prints_word (by simp) (by simp)) first params
  | integrator name ps =>
    have first := names name List.mem_cons_self
    exact drafted_renamedEntity (Upgrade.settles_integrator first)
      (A.prints_word (by simp) (by simp)) first params
  | material name ps =>
    have first := names name List.mem_cons_self
    exact drafted_renamedEntity (Upgrade.settles_material first)
      (A.prints_word (by simp) (by simp)) first params
  | areaLightSource name ps =>
    have first := names name List.mem_cons_self
    exact drafted_renamedEntity (Upgrade.settles_areaLight first)
      (A.prints_word (by simp) (by simp)) first params
  | attributes target ps => exact drafted_attributes (names target List.mem_cons_self) params
  | texture name kind implementation ps =>
    have spells : ∀ s ∈ [name, kind, implementation], A.Spells s := names
    exact drafted_texture (spells name (by simp)) (spells kind (by simp))
      (spells implementation (by simp)) params
  | worldBegin | worldEnd | attributeBegin | attributeEnd | transformBegin | transformEnd
  | objectBegin _ | objectEnd => simp [Directive.scopeRole] at plain

/-! ## All directives -/

/-- A directive is refused wherever it stands, or has a page that is put out wherever it stands; the
page of a directive that moves scopes is one line. -/
theorem refused_or_written (upgrading : Bool) {d : Directive α} (spelled : d.Spelled A) :
    (upgrading = true ∧ d.scopeRole = .plain ∧ ∀ loc, ∃ e, ∃ ms : List (Message α), ∀ o,
      (interpret upgrading d loc).run o = ⟨.error (refusal e), o, ms.map .message⟩) ∨
    ∃ p : Page, p.Spelled A ∧ (d.scopeRole ≠ .plain → p.further = []) ∧
      ∀ loc o, Wrote d p loc o ((interpret upgrading d loc).run o) := by
  -- what is left for a directive of one line
  have oneLine {s : String} (printed : A.Prints s)
      (wrote : ∀ loc o, Wrote d ⟨s, []⟩ loc o ((interpret upgrading d loc).run o)) :
      ∃ p : Page, p.Spelled A ∧ (d.scopeRole ≠ .plain → p.further = []) ∧
        ∀ loc o, Wrote d p loc o ((interpret upgrading d loc).run o) :=
    ⟨⟨s, []⟩, ⟨printed, by simp⟩, fun _ => rfl, wrote⟩
  obtain ⟨r, role⟩ : ∃ r, d.scopeRole = r := ⟨_, rfl⟩
  cases r with
  | plain =>
    cases drafted_interpret upgrading role spelled with
    | refuses upgrades run => exact Or.inl ⟨upgrades, role, run⟩
    | puts p printed puts =>
      exact Or.inr ⟨p, printed, fun other => absurd role other,
        fun loc o => .of_puts role (puts loc)⟩
  | startsWorld =>
    cases d <;> simp [Directive.scopeRole] at role
    exact Or.inr (oneLine (A.prints_word (by simp) (by simp)) wrote_worldBegin)
  | endsWorld =>
    cases d <;> simp [Directive.scopeRole] at role
    exact Or.inr (oneLine (A.prints_word (by simp) (by simp)) wrote_worldEnd)
  | opens kind =>
    cases d <;> simp [Directive.scopeRole] at role
    case attributeBegin =>
      exact Or.inr (oneLine (A.prints_word (by simp) (by simp)) wrote_attributeBegin)
    case transformBegin =>
      exact Or.inr (oneLine (A.prints_word (by simp) (by simp)) (wrote_begin rfl (by simp) _))
    case objectBegin name =>
      have header : A.Prints ("ObjectBegin " ++ quoted name) :=
        (A.prints_word (by simp) (by simp)).append
          (A.spells_quoted (spelled.names name List.mem_cons_self))
      exact Or.inr (oneLine header (wrote_begin rfl (by simp) _))
  | closes kind =>
    have word : A.Prints kind.endWord := by
      cases kind <;> exact A.prints_word (by simp [ScopeKind.endWord]) (by simp [ScopeKind.endWord])
    refine Or.inr (oneLine word fun loc o => ?_)
    cases d <;> simp [Directive.scopeRole] at role <;> subst role <;> exact wrote_end rfl loc o

/-! ## Failing and finishing -/

variable {o : OpenScopes α} {d : LocatedDirective α}

/-- A directive that fails is an End without a scope to close, or is refused by an upgrade rule. -/
inductive Failure (upgrading : Bool) (d : LocatedDirective α) (o : OpenScopes α) :
    WriteError α → Prop
  | scope {kind : ScopeKind} {reason : ScopeError α} : d.directive.scopeRole = .closes kind →
      o.pop kind = .error reason → Failure upgrading d o ⟨d.loc, .scope reason⟩
  | upgrade (refused : UpgradeError α) : upgrading = true → d.directive.scopeRole = .plain →
      Failure upgrading d o (refusal refused)

/-- A directive that fails leaves the scopes alone, and has only given messages. -/
theorem run_interpretAt_of_error {e : WriteError α}
    (failed : ((interpretAt upgrading d).run o).result = .error e) :
    Failure upgrading d o e ∧ ∃ ms : List (Message α),
      (interpretAt upgrading d).run o = ⟨.error e, o, ms.map .message⟩ := by
  rcases refused_or_written upgrading d.directive.spelled_full with
    ⟨upgrades, plain, refused⟩ | ⟨p, -, -, wrote⟩
  · obtain ⟨e', ms, run⟩ := refused d.loc
    have run : (interpretAt upgrading d).run o = _ := run o
    rw [run] at failed ⊢
    obtain rfl : refusal e' = e := Except.error.inj failed
    exact ⟨.upgrade e' upgrades plain, ms, rfl⟩
  · have wrote : Wrote d.directive p d.loc o ((interpretAt upgrading d).run o) := wrote d.loc o
    generalize (interpretAt upgrading d).run o = out at wrote failed
    cases wrote with
    | unmatched closes pop =>
      obtain rfl := Except.error.inj failed
      exact ⟨.scope closes pop, [], rfl⟩
    | written _ _ => cases failed

theorem next_of_not_accepts (refused : accepts upgrading o d = false) :
    next upgrading o d = o := by
  obtain ⟨e, failed⟩ := not_accepts_iff.1 refused
  obtain ⟨-, ms, run⟩ := run_interpretAt_of_error failed
  rw [next, run]

/-- A directive that is accepted once has a page that is put out wherever it stands. -/
theorem exists_page_of_accepts (accepted : accepts upgrading o d = true)
    (spelled : d.directive.Spelled A) :
    ∃ p : Page, p.Spelled A ∧ (d.directive.scopeRole ≠ .plain → p.further = []) ∧
      ∀ loc' o', Wrote d.directive p loc' o' ((interpret upgrading d.directive loc').run o') := by
  rcases refused_or_written upgrading spelled with ⟨-, -, refused⟩ | written
  · obtain ⟨e, ms, run⟩ := refused d.loc
    have run : (interpretAt upgrading d).run o = _ := run o
    rw [accepts, run] at accepted
    cases accepted
  · exact written

theorem Wrote.of_accepts {p : Page}
    (wrote : Wrote d.directive p d.loc o ((interpretAt upgrading d).run o))
    (accepted : accepts upgrading o d = true) :
    textAt upgrading o d = d.directive.sheet p o.depth ∧
      next upgrading o d = d.directive.moveScopes d.loc o ∧
      ∀ kind, d.directive.scopeRole = .closes kind → ∃ s rest, o.pop kind = .ok (s, rest) := by
  rw [accepts] at accepted
  rw [textAt, next]
  generalize (interpretAt upgrading d).run o = out at wrote accepted ⊢
  cases wrote with
  | unmatched _ _ => cases accepted
  | written found text => exact ⟨text, rfl, found⟩

theorem next_of_accepts (accepted : accepts upgrading o d = true) :
    next upgrading o d = d.directive.moveScopes d.loc o := by
  obtain ⟨p, -, -, wrote⟩ := exists_page_of_accepts accepted d.directive.spelled_full
  exact (Wrote.of_accepts (wrote d.loc o) accepted).2.1

/-- Only an End, or a directive without a scope that is upgraded, may be refused. -/
theorem accepts_of_not_closes (opening : ∀ kind, d.directive.scopeRole ≠ .closes kind)
    (kept : upgrading = false ∨ d.directive.scopeRole ≠ .plain) : accepts upgrading o d = true := by
  cases accepted : accepts upgrading o d with
  | true => rfl
  | false =>
    obtain ⟨e, failed⟩ := not_accepts_iff.1 accepted
    obtain ⟨cause, -⟩ := run_interpretAt_of_error failed
    cases cause with
    | scope closes _ => exact absurd closes (opening _)
    | upgrade _ upgrades plain =>
      rcases kept with off | other
      · rw [off] at upgrades
        cases upgrades
      · exact absurd plain other

/-- An End is accepted if and only if it closes the innermost scope. -/
theorem accepts_iff_of_closes {kind : ScopeKind} (closes : d.directive.scopeRole = .closes kind) :
    accepts upgrading o d = true ↔ ∃ s rest, o.pop kind = .ok (s, rest) := by
  constructor
  · intro accepted
    obtain ⟨p, -, -, wrote⟩ := exists_page_of_accepts accepted d.directive.spelled_full
    exact (Wrote.of_accepts (wrote d.loc o) accepted).2.2 kind closes
  · rintro ⟨s, rest, pop⟩
    cases accepted : accepts upgrading o d with
    | true => rfl
    | false =>
      obtain ⟨e, failed⟩ := not_accepts_iff.1 accepted
      obtain ⟨cause, -⟩ := run_interpretAt_of_error failed
      cases cause with
      | scope closes' error =>
        obtain rfl : kind = _ := by simpa [closes] using closes'
        rw [pop] at error
        cases error
      | upgrade _ _ plain =>
        rw [closes] at plain
        cases plain

end Writer

end SceneScript
