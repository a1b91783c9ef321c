import SceneScript.Proofs.Scalar.DoubleText
import SceneScript.Proofs.Writer.Reading

/-!
# Plain writing loses nothing

From the text that a writer puts out when it is not upgrading, the directives can be told again, up
to what is not written of them (`contents_of_equal_texts`). The text is that of one list of
lines only (`lines_unique`); without indentation and empty lines, these are the lines of the
directives in turn, and the first line of each says how many more belong to it.
-/

set_option autoImplicit false

namespace SceneScript

open Writer

/-! ## The lines are well-formed -/

namespace Writer

/-- After anything but the name of an option, all items may follow in any order. -/
theorem lineFits_inside {items : List Item} (some : items ≠ [])
    (fits : ∀ i ∈ items, i.Fits .inside) : LineFits .inside items := by
  induction items with
  | nil => exact absurd rfl some
  | cons i rest ih =>
    cases rest with
    | nil => exact fits i List.mem_cons_self
    | cons j rest =>
      have stay : Stage.next .inside i = .inside := by cases i <;> rfl
      refine ⟨fits i List.mem_cons_self, by decide, ?_⟩
      rw [stay]
      exact ih (by simp) fun k hk => fits k (List.mem_cons_of_mem i hk)

/-- A line that begins with something else than the keyword of an option. -/
theorem lineFits_of_next {i : Item} {rest : List Item} (first : i.Fits .start)
    (next : Stage.next .start i = .inside) (others : ∀ j ∈ rest, j.Fits .inside) :
    LineFits .start (i :: rest) := by
  cases rest with
  | nil => exact first
  | cons j rest =>
    refine ⟨first, by decide, ?_⟩
    rw [next]
    exact lineFits_inside (by simp) others

/-- A line of three numbers. -/
theorem lineFits_three {u v w : String} (fits : ∀ s ∈ [u, v, w], Item.Fits .inside (.bare s)) :
    LineFits .start [.bare u, .bare v, .bare w] := by
  have word {s : String} (mem : s ∈ [u, v, w]) {stage : Stage} (early : stage ≠ .value) :
      Item.Fits stage (.bare s) := ⟨early, (fits s mem).2⟩
  have early (s : String) {stage : Stage} (early : stage ≠ .value) :
      stage.next (.bare s) ≠ .value := by
    cases stage <;> simp only [Stage.next, ne_eq, reduceCtorEq, not_false_eq_true]
    · split
      · decide
      · split <;> decide
  have second : Stage.next .start (.bare u) ≠ .value := early u (by decide)
  have third := early v second
  exact ⟨word (by simp) (by decide), by decide, word (by simp) second, second, word (by simp) third⟩

theorem bracketed_fits {items : List Item} (fits : ∀ i ∈ items, i.Fits .inside) :
    ∀ i ∈ bracketed items, i.Fits .inside := by
  have opening : Item.Fits .inside (.bare "[") := ⟨by decide, by simp⟩
  have closing : Item.Fits .inside (.bare "]") := ⟨by decide, by simp⟩
  have blank : Item.Fits .inside (.bare "") := ⟨by decide, by simp⟩
  intro i hi
  rcases List.mem_cons.1 hi with rfl | hi
  · exact opening
  rcases List.mem_append.1 hi with hi | hi
  · split at hi
    · rw [List.mem_singleton.1 hi]
      exact blank
    · exact fits i hi
  · rw [List.mem_singleton.1 hi]
    exact closing

variable {α : Type} [Scalar α] [LawfulText α]

theorem number_fits (x : α) : (number x).Fits .inside := by
  refine ⟨by decide, fun c hc => ?_⟩
  have plain := LawfulText.not_delimiter hc
  simp only [delimiters, List.mem_cons, List.not_mem_nil, or_false, not_or] at plain
  exact ⟨plain.1, plain.2.1, plain.2.2.2.2⟩

theorem numbers_fit (xs : List α) : ∀ i ∈ xs.map number, i.Fits .inside := by
  intro i hi
  obtain ⟨x, -, rfl⟩ := List.mem_map.1 hi
  exact number_fits x

theorem lineFits_vectorItems (v : Vec3 α) : LineFits .start (vectorItems v) := by
  refine lineFits_three fun s hs => ?_
  simp only [List.mem_cons, List.not_mem_nil, or_false] at hs
  rcases hs with rfl | rfl | rfl
  · exact number_fits v.x
  · exact number_fits v.y
  · exact number_fits v.z

/-- The items of a readable parameter begin with a text in quotation marks. -/
theorem paramItems_fit {p : Param α} (readable : p.Readable) :
    ∀ i ∈ paramItems p, i.Fits .inside := by
  have declaration : '"' ∉ (p.type ++ " " ++ p.name).toList := by
    simp only [String.toList_append, List.mem_append, not_or]
    exact ⟨⟨fun h => (readable.type _ h).2 rfl, by decide⟩, readable.name⟩
  have values : ∀ i ∈ p.values.map valueItem, i.Fits .inside := by
    intro i hi
    obtain ⟨v, hv, rfl⟩ := List.mem_map.1 hi
    cases v with
    | number x => exact number_fits x
    | string s =>
      have mem : s ∈ p.strings := by simpa [Param.values] using hv
      exact ⟨by decide, readable.strings s mem⟩
    | bool b => cases b <;> exact ⟨by decide, by decide⟩
  intro i hi
  rcases List.mem_cons.1 hi with rfl | hi
  · exact ⟨by decide, declaration⟩
  · exact bracketed_fits values i hi

theorem lineFits_paramItems {p : Param α} (readable : p.Readable) :
    LineFits .start (paramItems p) := by
  have fits := paramItems_fit readable
  exact lineFits_of_next ⟨by decide, (fits _ List.mem_cons_self).2⟩ rfl
    fun i hi => fits i (List.mem_cons_of_mem _ hi)

/-- A readable directive has a well-formed first line. -/
theorem lineFits_header {d : Directive α} (readable : d.Readable) : LineFits .start d.header := by
  -- a keyword, and what follows it on the line
  have keyword {w : String} {items : List Item}
      (chars : ∀ c ∈ w.toList, c ≠ ' ' ∧ c ≠ '"' ∧ c ≠ '\n')
      (next : Stage.next .start (.bare w) = .inside) (fits : ∀ i ∈ items, i.Fits .inside) :
      LineFits .start (.bare w :: items) :=
    lineFits_of_next ⟨by decide, chars⟩ next fits
  have names : ∀ i ∈ d.names.map Item.quoted, i.Fits .inside := by
    intro i hi
    obtain ⟨s, hs, rfl⟩ := List.mem_map.1 hi
    exact ⟨by decide, readable.names s hs⟩
  cases d with
  | option name value =>
    have quoted : Item.Fits .keyword (.quoted name) :=
      ⟨by decide, readable.names name List.mem_cons_self⟩
    have word : Item.Fits .start (.bare "Option") := ⟨by decide, by simp⟩
    exact ⟨word, by decide, quoted, by decide, rfl, readable.value value rfl⟩
  | translate v => exact keyword (by simp) rfl (numbers_fit [v.x, v.y, v.z])
  | scale v => exact keyword (by simp) rfl (numbers_fit [v.x, v.y, v.z])
  | rotate degrees axis =>
    exact keyword (by simp) rfl (numbers_fit [degrees, axis.x, axis.y, axis.z])
  | lookAt eye look up => exact keyword (by simp) rfl (numbers_fit [eye.x, eye.y, eye.z])
  | concatTransform xs => exact keyword (by simp) rfl (bracketed_fits (numbers_fit xs))
  | transform xs => exact keyword (by simp) rfl (bracketed_fits (numbers_fit xs))
  | transformTimes opening closing =>
    exact keyword (by simp) rfl (numbers_fit [opening, closing])
  | activeTransform slots =>
    have word : Item.Fits .inside (.bare slots.name) := by
      cases slots <;> exact ⟨by decide, by simp [SlotWord.name]⟩
    exact keyword (by simp) rfl (by simpa using word)
  | attributes target ps =>
    rcases ps with _ | ⟨p, _ | ⟨q, rest⟩⟩
    · exact keyword (by simp) rfl names
    · refine keyword (by simp) rfl fun i hi => ?_
      rcases List.mem_cons.1 hi with rfl | hi
      · exact names _ List.mem_cons_self
      · exact paramItems_fit (readable.params p List.mem_cons_self) i hi
    · exact keyword (by simp) rfl names
  | _ => exact keyword (by simp) rfl names

/-- A readable directive has well-formed further lines. -/
theorem lineFits_further {d : Directive α} (readable : d.Readable) :
    ∀ l ∈ d.further, LineFits .start l := by
  have params (ps : List (Param α)) (readable : ∀ p ∈ ps, p.Readable) :
      ∀ l ∈ ps.map paramItems, LineFits .start l := by
    intro l hl
    obtain ⟨p, hp, rfl⟩ := List.mem_map.1 hl
    exact lineFits_paramItems (readable p hp)
  cases d with
  | lookAt eye look up =>
    intro l hl
    rcases List.mem_cons.1 hl with rfl | hl
    · exact lineFits_vectorItems look
    · rw [List.mem_singleton.1 hl]
      exact lineFits_vectorItems up
  | attributes target ps =>
    rcases ps with _ | ⟨p, _ | ⟨q, rest⟩⟩
    · exact params [] readable.params
    · exact params [] (by simp)
    · exact params (p :: q :: rest) readable.params
  | _ => exact params _ readable.params

theorem lineFits_lines {d : Directive α} (readable : d.Readable) (depth : Nat) :
    ∀ l ∈ d.lines depth, LineFits .start l := by
  have header := lineFits_header readable
  have further := lineFits_further readable
  intro l hl
  simp only [Directive.lines, List.mem_append, List.mem_cons, List.mem_map,
    List.mem_replicate] at hl
  rcases hl with (⟨-, rfl⟩ | rfl | ⟨l, hl, rfl⟩) | ⟨-, rfl⟩
  · exact lineFits_emptyLine
  · exact lineFits_indented _ header
  · exact lineFits_indented _ (further l hl)
  · exact lineFits_emptyLine

end Writer

/-! ## The lines of each directive -/

namespace Writer

/-- Whether a line begins with a text in quotation marks, as those of parameters do. -/
def isParamLine : List Item → Bool
  | .quoted _ :: _ => true
  | _ => false

/-- The further lines of a directive with the given first line, and the lines after them. -/
def splitFurther (header : List Item) (lines : List (List Item)) :
    List (List Item) × List (List Item) :=
  if header.head? = some (.bare "LookAt") then (lines.take 2, lines.drop 2)
  else (lines.takeWhile isParamLine, lines.dropWhile isParamLine)

variable {α : Type} [Scalar α]

/-- The first line tells how many lines belong to a directive. -/
theorem splitFurther_header (d : Directive α) {rest : List (List Item)}
    (next : ∀ l ∈ rest.head?, isParamLine l = false) :
    splitFurther d.header (d.further ++ rest) = (d.further, rest) := by
  have params (ps : List (Param α)) :
      (ps.map paramItems ++ rest).takeWhile isParamLine = ps.map paramItems ∧
        (ps.map paramItems ++ rest).dropWhile isParamLine = rest := by
    have all : ∀ l ∈ ps.map paramItems, isParamLine l = true := by
      intro l hl
      obtain ⟨p, -, rfl⟩ := List.mem_map.1 hl
      rfl
    rw [List.takeWhile_append_of_pos all, List.dropWhile_append_of_pos all]
    cases rest with
    | nil => simp
    | cons l others =>
      have stops : isParamLine l = false := next l rfl
      simp [stops]
  have split {header : List Item} (other : header.head? ≠ some (.bare "LookAt"))
      (ps : List (Param α)) :
      splitFurther header (ps.map paramItems ++ rest) = (ps.map paramItems, rest) := by
    rw [splitFurther, if_neg other, (params ps).1, (params ps).2]
  cases d with
  | lookAt eye look up => rfl
  | attributes target ps =>
    rcases ps with _ | ⟨p, _ | ⟨q, rest⟩⟩
    · exact split (by simp [Directive.header]) []
    · exact split (by simp [Directive.header]) []
    · exact split (by simp [Directive.header]) (p :: q :: rest)
  | _ => exact split (by simp [Directive.header]) _

/-- The lines of directives in turn, without indentation and empty lines. -/
def contentLines (ds : List (Directive α)) : List (List Item) :=
  ds.flatMap fun d => d.header :: d.further

theorem isParamLine_head_contentLines (ds : List (Directive α)) :
    ∀ l ∈ (contentLines ds).head?, isParamLine l = false := by
  cases ds with
  | nil => simp [contentLines]
  | cons d rest =>
    intro l hl
    obtain rfl : d.header = l := by simpa [contentLines] using hl
    cases d with
    | attributes target ps => rcases ps with _ | ⟨p, _ | ⟨q, rest⟩⟩ <;> rfl
    | _ => rfl

variable [LawfulText α]

/-- Directives with the same lines have the same contents. -/
theorem contents_of_contentLines {ds es : List (Directive α)} (readable : ∀ d ∈ ds, d.Readable)
    (readable' : ∀ e ∈ es, e.Readable) (same : contentLines ds = contentLines es) :
    ds.map (·.contents Scalar.text nowhere) = es.map (·.contents Scalar.text nowhere) := by
  induction ds generalizing es with
  | nil =>
    cases es with
    | nil => rfl
    | cons e rest => exact absurd same (by simp [contentLines])
  | cons d rest ih =>
    cases es with
    | nil => exact absurd same (by simp [contentLines])
    | cons e rest' =>
      have same : d.header :: (d.further ++ contentLines rest) =
          e.header :: (e.further ++ contentLines rest') := same
      obtain ⟨header, others⟩ := List.cons.inj same
      -- the first lines are the same, and split the others in the same way
      have split := splitFurther_header d (isParamLine_head_contentLines rest)
      rw [header, others, splitFurther_header e (isParamLine_head_contentLines rest')] at split
      obtain ⟨further, others⟩ := Prod.mk.inj split
      have first := ofLines_lines (readable d List.mem_cons_self)
      rw [header, ← further, ofLines_lines (readable' e List.mem_cons_self)] at first
      rw [List.map_cons, List.map_cons, Option.some.inj first,
        ih (fun d hd => readable d (List.mem_cons_of_mem _ hd))
          (fun e he => readable' e (List.mem_cons_of_mem _ he)) others.symm]

/-! ## The text of a run -/

/-- The text of a run that finishes is that of well-formed lines, which are, without indentation and
empty lines, those of the directives. -/
theorem exists_lines {ds : List (LocatedDirective α)} {o : OpenScopes α}
    (readable : ∀ d ∈ ds, d.directive.Readable)
    (finished : ((carryOut false ds).run o).result = .ok ()) :
    ∃ lines, textOf ((carryOut false ds).run o).notices = linesText lines ∧
      (∀ l ∈ lines, LineFits .start l) ∧
      significant lines = contentLines (ds.map (·.directive)) := by
  induction ds generalizing o with
  | nil => exact ⟨[], rfl, by simp, rfl⟩
  | cons d rest ih =>
    obtain ⟨accepted, finished⟩ := finished_carryOut_cons.1 finished
    obtain ⟨lines, text, fits, contents⟩ :=
      ih (fun e he => readable e (List.mem_cons_of_mem d he)) finished
    obtain ⟨first, -, -⟩ := Wrote.of_accepts (wrote_page d.directive d.loc o) accepted
    have first : textOf ((interpretAt false d).run o).notices =
        linesText (d.directive.lines o.depth) := by
      rw [Directive.linesText_lines]
      exact first
    refine ⟨d.directive.lines o.depth ++ lines, ?_, ?_, ?_⟩
    · rw [run_carryOut_cons accepted, textOf_append, first, text, linesText_append]
    · intro l hl
      rcases List.mem_append.1 hl with here | there
      · exact lineFits_lines (readable d List.mem_cons_self) _ l here
      · exact fits l there
    · rw [significant_append, Directive.significant_lines, contents]
      rfl

/-- The text of a number determines it, up to the sign of a zero. -/
theorem exists_ofText :
    ∃ ofText : String → α, ∀ x, ofText (Scalar.text x) = Scalar.withoutZeroSign x := by
  classical
  refine ⟨fun s => if h : ∃ x : α, Scalar.text x = s then Scalar.withoutZeroSign h.choose else 0,
    fun x => ?_⟩
  have found : ∃ y : α, Scalar.text y = Scalar.text x := ⟨x, rfl⟩
  refine (dif_pos found).trans ?_
  exact LawfulText.eq_of_text found.choose_spec

/-- Two runs that finish without an upgrade, and put out the same text, were given the same
directives, with the same arguments and the same parameters in the same order; only where they
stand, what else is not written of a parameter, and the sign of a zero may differ. -/
theorem contents_of_equal_texts {ds es : List (LocatedDirective α)}
    (readable : ∀ d ∈ ds, d.directive.Readable) (readable' : ∀ e ∈ es, e.directive.Readable)
    (finished : ((carryOut false ds).run .none).result = .ok ())
    (finished' : ((carryOut false es).run .none).result = .ok ())
    (same : textOf ((carryOut false ds).run .none).notices =
      textOf ((carryOut false es).run .none).notices) :
    ds.map (fun d => d.directive.contents Scalar.withoutZeroSign .unknown) =
      es.map (fun e => e.directive.contents Scalar.withoutZeroSign .unknown) := by
  obtain ⟨lines, text, fits, contents⟩ := exists_lines readable finished
  obtain ⟨lines', text', fits', contents'⟩ := exists_lines readable' finished'
  obtain rfl : lines = lines' := lines_unique fits fits' (by rw [← text, ← text', same])
  have readableAll {ds : List (LocatedDirective α)} (readable : ∀ d ∈ ds, d.directive.Readable) :
      ∀ d ∈ ds.map (·.directive), d.Readable := by
    intro d hd
    obtain ⟨l, hl, rfl⟩ := List.mem_map.1 hd
    exact readable l hl
  have shown := contents_of_contentLines (readableAll readable) (readableAll readable')
    (contents.symm.trans contents')
  obtain ⟨ofText, read⟩ := exists_ofText (α := α)
  have numbers := congrArg (List.map (·.contents ofText .unknown)) shown
  simpa only [List.map_map, Function.comp_def, Directive.contents_contents, read] using numbers

/-- Control: two runs that differ in a place, in the sign of a zero, and in whether a parameter may
stay unused. -/
theorem contents_of_equal_texts_signed_zero :
    let here : Location Float := ⟨"lamp.scene", 3, 1⟩
    let radius (quiet : Bool) : Param Float :=
      ⟨"float", "radius", .unknown, [0.5], [], [], quiet, none⟩
    let ds : List (LocatedDirective Float) :=
      [⟨.translate ⟨0, 1, 2⟩, .unknown⟩, ⟨.shape "sphere" [radius true], .unknown⟩]
    let es : List (LocatedDirective Float) :=
      [⟨.translate ⟨-0, 1, 2⟩, here⟩, ⟨.shape "sphere" [radius false], here⟩]
    textOf ((carryOut false ds).run .none).notices =
        "Translate 0 1 2\nShape \"sphere\"\n    \"float radius\" [ 0.5 ]\n" ∧
      ds.map (fun d => d.directive.contents Scalar.withoutZeroSign .unknown) =
        es.map (fun e => e.directive.contents Scalar.withoutZeroSign .unknown) := by
  intro here radius ds es
  have text : textOf ((carryOut false ds).run .none).notices =
      "Translate 0 1 2\nShape \"sphere\"\n    \"float radius\" [ 0.5 ]\n" := by decide +kernel
  have text' : textOf ((carryOut false es).run .none).notices =
      "Translate 0 1 2\nShape \"sphere\"\n    \"float radius\" [ 0.5 ]\n" := by decide +kernel
  have param (quiet : Bool) : (radius quiet).Readable :=
    ⟨by simp [radius], by simp [radius], by simp [radius], by simp [radius], by simp [radius]⟩
  have translate (v : Vec3 Float) : (Directive.translate v).Readable :=
    ⟨fun _ h => (nomatch h), fun _ h => (nomatch h), fun _ h => (nomatch h)⟩
  have shape (quiet : Bool) : (Directive.shape "sphere" [radius quiet]).Readable :=
    ⟨by simp [Directive.names], fun _ h => (nomatch h), by simpa [Directive.params] using param quiet⟩
  have readable : ∀ d ∈ ds, d.directive.Readable := by simp [ds, translate, shape]
  have readable' : ∀ e ∈ es, e.directive.Readable := by simp [es, translate, shape]
  exact ⟨text, contents_of_equal_texts readable readable' rfl rfl (text.trans text'.symm)⟩

end Writer

end SceneScript
