import SceneScript.Proofs.Scalar.DoubleText
import SceneScript.Proofs.Writer.Outcomes

/-!
# Indentation follows nesting

The writer takes the indentation from its record of open scopes. `unmatchedBegins` counts without
that record: a Begin is counted until an End is accepted, and WorldEnd starts afresh. Both always
agree (`depth_after`), whatever directives failed on the way. So the text of an accepted directive
is that of a page whose levels are given by the count (`indentation_follows_nesting`).
-/

set_option autoImplicit false

namespace SceneScript.Writer

variable {α : Type}

/-- The header of a page stands at the level of its directive, and the further lines one level
deeper than the count of Begins. -/
theorem sheet_eq {d : Directive α} {p : Page} (oneLine : d.scopeRole ≠ .plain → p.further = [])
    (count : Nat) : d.sheet p count =
      String.ofList (List.replicate d.emptyLinesBefore '\n') ++
      lineAt (d.headerLevel count) p.header ++
      String.join (p.further.map (lineAt (count + 1))) ++
      String.ofList (List.replicate d.emptyLinesAfter '\n') := by
  by_cases plain : d.scopeRole = .plain
  · simp [Directive.sheet, Page.text, Directive.headerLevel, plain, String.append_assoc]
  · simp [Directive.sheet, Page.text, oneLine plain]

/-- An End stands below the Begin of the scope that it closes. -/
theorem headerLevel_of_matching {first last : Directive α} {kind kind' : ScopeKind}
    (opens : first.scopeRole = .opens kind) (closes : last.scopeRole = .closes kind')
    (count : Nat) :
    last.headerLevel (count + 1) = first.headerLevel count := by
  simp [Directive.headerLevel, opens, closes]

variable [Scalar α] {upgrading : Bool}

/-- The number of Begins without an End after one more directive. -/
def countBegins (upgrading : Bool) (o : OpenScopes α) (count : Nat) (d : LocatedDirective α) :
    Nat :=
  match d.directive.scopeRole with
  | .opens _ => count + 1
  | .closes _ => if accepts upgrading o d then count - 1 else count
  | .endsWorld => 0
  | .plain | .startsWorld => count

/-- The number of Begins without an End after directives in turn, which start from the given scopes
and the given number. -/
def unmatchedBegins (upgrading : Bool) (o : OpenScopes α) (count : Nat) :
    List (LocatedDirective α) → Nat
  | [] => count
  | d :: rest =>
    unmatchedBegins upgrading (next upgrading o d) (countBegins upgrading o count d) rest

theorem depth_next (o : OpenScopes α) (d : LocatedDirective α) :
    (next upgrading o d).depth = countBegins upgrading o o.depth d := by
  have always (role : ∀ kind, d.directive.scopeRole ≠ .closes kind)
      (moves : d.directive.scopeRole ≠ .plain) :
      next upgrading o d = d.directive.moveScopes d.loc o :=
    next_of_accepts (accepts_of_not_closes role (Or.inr moves))
  unfold countBegins
  cases role : d.directive.scopeRole with
  | opens kind =>
    rw [always (by simp [role]) (by simp [role]), Directive.moveScopes, role]
    exact OpenScopes.depth_push kind d.loc o
  | endsWorld =>
    rw [always (by simp [role]) (by simp [role]), Directive.moveScopes, role]
    rfl
  | startsWorld => rw [always (by simp [role]) (by simp [role]), Directive.moveScopes, role]
  | plain =>
    cases accepted : accepts upgrading o d with
    | true => rw [next_of_accepts accepted, Directive.moveScopes, role]
    | false => rw [next_of_not_accepts accepted]
  | closes kind =>
    cases accepted : accepts upgrading o d with
    | true =>
      rw [next_of_accepts accepted, Directive.moveScopes, role]
      simp [OpenScopes.depth]
    | false => simp [next_of_not_accepts accepted]

/-- The scopes on record are as many as the Begins without an End. -/
theorem depth_after (o : OpenScopes α) (ds : List (LocatedDirective α)) :
    (after upgrading o ds).depth = unmatchedBegins upgrading o o.depth ds := by
  induction ds generalizing o with
  | nil => rfl
  | cons d rest ih => rw [after_cons, ih, unmatchedBegins, depth_next]

/-- Let `count` be the number of Begins without an accepted End when a directive is accepted,
upgrading or not. The text put out for the directive is the same in every other run with that
count. If its texts have no newline, it is a page whose lines begin with no blank: the header at the
level of the directive (`Directive.headerLevel`), and all further lines at the level `count + 1`,
between the empty lines of WorldBegin and AttributeBegin. The End of the scope that the directive
opens is accepted and has its header at the same level. -/
theorem indentation_follows_nesting [LawfulText α] (before : List (LocatedDirective α))
    (d : LocatedDirective α) (accepted : accepts upgrading (after upgrading .none before) d = true) :
    let count := unmatchedBegins upgrading .none 0 before
    (∀ before' d', d'.directive = d.directive →
      accepts upgrading (after upgrading .none before') d' = true →
      unmatchedBegins upgrading .none 0 before' = count →
      textAt upgrading (after upgrading .none before') d' =
        textAt upgrading (after upgrading .none before) d) ∧
    (d.directive.Spelled Alphabet.line → ∃ p : Page, p.Spelled (Alphabet.line (α := α)) ∧
      textAt upgrading (after upgrading .none before) d =
        String.ofList (List.replicate d.directive.emptyLinesBefore '\n') ++
        lineAt (d.directive.headerLevel count) p.header ++
        String.join (p.further.map (lineAt (count + 1))) ++
        String.ofList (List.replicate d.directive.emptyLinesAfter '\n')) ∧
    ∀ kind body last, d.directive.scopeRole = .opens kind →
      (after upgrading .none (before ++ d :: body)).scopes =
        ⟨kind, d.loc⟩ :: (after upgrading .none before).scopes →
      last.directive.scopeRole = .closes kind →
      accepts upgrading (after upgrading .none (before ++ d :: body)) last = true ∧
        last.directive.headerLevel (unmatchedBegins upgrading .none 0 (before ++ d :: body)) =
          d.directive.headerLevel count := by
  intro count
  have depth (ds : List (LocatedDirective α)) :
      (after upgrading .none ds).depth = unmatchedBegins upgrading .none 0 ds := depth_after _ ds
  refine ⟨fun before' d' same accepted' counts => ?_, fun spelled => ?_,
    fun kind body last opens scopes closes => ?_⟩
  · -- the directive has one page, which is put out in both runs
    obtain ⟨p, -, -, wrote⟩ := exists_page_of_accepts accepted d.directive.spelled_full
    have text := (Wrote.of_accepts (wrote d.loc _) accepted).1
    rw [← same] at wrote text
    have text' := (Wrote.of_accepts (wrote d'.loc _) accepted').1
    rw [text, text', depth, depth, counts]
  · obtain ⟨p, printed, oneLine, wrote⟩ := exists_page_of_accepts accepted spelled
    refine ⟨p, printed, ?_⟩
    rw [(Wrote.of_accepts (wrote d.loc _) accepted).1, depth, sheet_eq oneLine]
  · refine ⟨(accepts_iff_of_closes closes).2 ⟨⟨kind, d.loc⟩, after upgrading .none before, ?_⟩, ?_⟩
    · exact OpenScopes.pop_eq_ok_iff.2 ⟨scopes, rfl⟩
    · -- the scope that is left open by the body counts for one Begin
      have deeper : unmatchedBegins upgrading .none 0 (before ++ d :: body) = count + 1 := by
        rw [← depth, OpenScopes.depth, scopes, List.length_cons, ← OpenScopes.depth, depth]
      rw [deeper, headerLevel_of_matching opens closes]

/-- Control: an object definition within an attribute scope, after a TransformEnd that is refused
and so does not count. -/
theorem indentation_follows_nesting_object_in_attributes :
    let before : List (LocatedDirective Float) :=
      [⟨.attributeBegin, .unknown⟩, ⟨.transformEnd, .unknown⟩]
    let d : LocatedDirective Float := ⟨.objectBegin "lamp", .unknown⟩
    let body : List (LocatedDirective Float) := [⟨.reverseOrientation, .unknown⟩]
    let last : LocatedDirective Float := ⟨.objectEnd, .unknown⟩
    unmatchedBegins true .none 0 before = 1 ∧
      (∃ p : Page, p.Spelled (Alphabet.line (α := Float)) ∧
        textAt true (after true .none before) d =
          lineAt 1 p.header ++ String.join (p.further.map (lineAt 2))) ∧
      accepts true (after true .none (before ++ d :: body)) last = true ∧
      last.directive.headerLevel (unmatchedBegins true .none 0 (before ++ d :: body)) = 1 := by
  intro before d body last
  have accepted : accepts true (after true .none before) d = true := rfl
  have spelled : d.directive.Spelled (Alphabet.line (α := Float)) := by
    refine ⟨fun name h => ?_, fun _ h => (nomatch h), fun _ h => (nomatch h)⟩
    obtain rfl : name = "lamp" := by simpa [d, Directive.names] using h
    exact Alphabet.spells_of_line _ (by simp)
  obtain ⟨-, page, ends⟩ := indentation_follows_nesting before d accepted
  obtain ⟨p, printed, text⟩ := page spelled
  obtain ⟨closes, level⟩ := ends .object body last rfl rfl rfl
  refine ⟨rfl, ⟨p, printed, text.trans ?_⟩, closes, level⟩
  change "" ++ lineAt 1 p.header ++ String.join (p.further.map (lineAt 2)) ++ "" = _
  rw [String.empty_append, String.append_empty]

end SceneScript.Writer
