import SceneScript.Proofs.Writer.Pages

/-!
# Items of a line

Every line that the writer puts out is a list of items with a blank between each two: bare words,
texts in quotation marks, and, at the end of a line that begins with `Option` and a text in
quotation marks, whatever is left of the line. Which of them may come next is known from the items
before (`Stage`), so no text is that of two lists of lines (`lines_unique`). A level of indentation
is some empty bare words, and an empty line is one.
-/

set_option autoImplicit false

namespace SceneScript.Writer

/-- A part of a line. -/
inductive Item where
  | bare (word : String)
  | quoted (text : String)
  /-- What is left of a line, as it is. -/
  | raw (text : String)
deriving DecidableEq, Repr

/-- The text of an item. -/
def Item.text : Item → String
  | bare word => word
  | quoted text => Writer.quoted text
  | raw text => text

/-- The text of a line, without its end. -/
def lineText (items : List Item) : String :=
  " ".intercalate (items.map Item.text)

/-- The text of lines. -/
def linesText (lines : List (List Item)) : String :=
  String.join (lines.map fun items => lineText items ++ "\n")

@[simp] theorem lineText_singleton (i : Item) : lineText [i] = i.text := by
  simp [lineText]

theorem lineText_cons_cons (i j : Item) (rest : List Item) :
    lineText (i :: j :: rest) = i.text ++ " " ++ lineText (j :: rest) := by
  simp only [lineText, List.map_cons, String.intercalate_cons_cons]

theorem lineText_cons (i : Item) {rest : List Item} (more : rest ≠ []) :
    lineText (i :: rest) = i.text ++ " " ++ lineText rest := by
  obtain ⟨j, others, rfl⟩ := List.exists_cons_of_ne_nil more
  exact lineText_cons_cons i j others

theorem lineText_append {items rest : List Item} (some : items ≠ []) (more : rest ≠ []) :
    lineText (items ++ rest) = lineText items ++ " " ++ lineText rest := by
  induction items with
  | nil => exact absurd rfl some
  | cons i others ih =>
    cases others with
    | nil => rw [List.singleton_append, lineText_cons i more, lineText_singleton]
    | cons j others =>
      rw [List.cons_append, lineText_cons i (by simp), ih (by simp), lineText_cons_cons]
      simp only [String.append_assoc]

/-! ## Well-formed lines -/

/-- What the items of a line so far say about the next one. -/
inductive Stage where
  /-- Nothing but indentation. -/
  | start
  /-- The keyword of an option. -/
  | keyword
  /-- The keyword and the name of an option. -/
  | value
  /-- Anything else. -/
  | inside
deriving DecidableEq, Repr

/-- The stage after one more item. -/
def Stage.next : Stage → Item → Stage
  | start, .bare word => if word = "" then start else if word = "Option" then keyword else inside
  | keyword, .quoted _ => value
  | _, _ => inside

/-- Whether an item may come at a stage, and has no character that would end it early. -/
def Item.Fits (stage : Stage) : Item → Prop
  | bare word => stage ≠ .value ∧ ∀ c ∈ word.toList, c ≠ ' ' ∧ c ≠ '"' ∧ c ≠ '\n'
  | quoted text => stage ≠ .value ∧ '"' ∉ text.toList
  | raw text => stage = .value ∧ '\n' ∉ text.toList

/-- Whether items may make up the rest of a line from a stage on. -/
def LineFits (stage : Stage) : List Item → Prop
  | [] => False
  | [i] => i.Fits stage
  | i :: rest => i.Fits stage ∧ stage ≠ .value ∧ LineFits (stage.next i) rest

/-! ## Reading a line in one way only -/

/-- A text up to the first of the characters that may end it. -/
theorem append_cons_inj (stop : Char → Prop) {w w' r r' : List Char} {c c' : Char}
    (hw : ∀ x ∈ w, ¬ stop x) (hw' : ∀ x ∈ w', ¬ stop x) (hc : stop c) (hc' : stop c')
    (h : w ++ c :: r = w' ++ c' :: r') : w = w' ∧ c = c' ∧ r = r' := by
  induction w generalizing w' with
  | nil =>
    cases w' with
    | nil => exact ⟨rfl, List.cons.inj h⟩
    | cons x rest =>
      obtain ⟨rfl, -⟩ := List.cons.inj h
      exact absurd hc (hw' c List.mem_cons_self)
  | cons x rest ih =>
    cases w' with
    | nil =>
      obtain ⟨rfl, -⟩ := List.cons.inj h
      exact absurd hc' (hw x List.mem_cons_self)
    | cons x' rest' =>
      obtain ⟨rfl, others⟩ := List.cons.inj h
      obtain ⟨rfl, next⟩ := ih (fun y hy => hw y (List.mem_cons_of_mem x hy))
        (fun y hy => hw' y (List.mem_cons_of_mem x hy)) others
      exact ⟨rfl, next⟩

/-- The characters between items and between lines. -/
def isBreak (c : Char) : Prop := c = ' ' ∨ c = '\n'

theorem toList_quoted (s : String) : (quoted s).toList = '"' :: (s.toList ++ ['"']) := by
  simp [quoted]

/-- Two items that may come at one stage, each followed by the end of an item, have different
texts. -/
theorem item_unique {stage : Stage} {i i' : Item} {c c' : Char} {r r' : List Char}
    (early : stage ≠ .value) (fits : i.Fits stage) (fits' : i'.Fits stage) (hc : isBreak c)
    (hc' : isBreak c') (h : i.text.toList ++ c :: r = i'.text.toList ++ c' :: r') :
    i = i' ∧ c = c' ∧ r = r' := by
  have bareStop {w : String} (fits : Item.Fits stage (.bare w)) : ∀ x ∈ w.toList, ¬ isBreak x := by
    intro x hx broken
    obtain ⟨blank, -, newline⟩ := fits.2 x hx
    exact broken.elim blank newline
  have noQuote {w s : String} {c : Char} {r r' : List Char} (fits : Item.Fits stage (.bare w))
      (hc : isBreak c) : w.toList ++ c :: r ≠ '"' :: r' := by
    intro same
    cases word : w.toList with
    | nil =>
      rw [word] at same
      obtain ⟨rfl, -⟩ := List.cons.inj same
      exact absurd hc (by simp [isBreak])
    | cons x rest =>
      rw [word] at same
      obtain ⟨rfl, -⟩ := List.cons.inj same
      exact (fits.2 '"' (by simp [word])).2.1 rfl
  cases i with
  | raw text => exact absurd fits.1 early
  | bare w =>
    cases i' with
    | raw text => exact absurd fits'.1 early
    | bare w' =>
      obtain ⟨word, next⟩ := append_cons_inj isBreak (bareStop fits) (bareStop fits') hc hc' h
      exact ⟨congrArg Item.bare (String.toList_inj.1 word), next⟩
    | quoted s =>
      rw [Item.text, Item.text, toList_quoted, List.cons_append] at h
      exact absurd h (noQuote (s := s) fits hc)
  | quoted s =>
    cases i' with
    | raw text => exact absurd fits'.1 early
    | bare w =>
      rw [Item.text, Item.text, toList_quoted, List.cons_append] at h
      exact absurd h.symm (noQuote (s := s) fits' hc')
    | quoted s' =>
      rw [Item.text, Item.text, toList_quoted, toList_quoted, List.cons_append, List.cons_append,
        List.append_assoc, List.append_assoc] at h
      have closed {s : String} (fits : Item.Fits stage (.quoted s)) :
          ∀ x ∈ s.toList, ¬ x = '"' := by
        rintro x hx rfl
        exact fits.2 hx
      obtain ⟨text, -, next⟩ := append_cons_inj (· = '"') (closed fits) (closed fits') rfl rfl
        (List.cons.inj h).2
      exact ⟨congrArg Item.quoted (String.toList_inj.1 text), List.cons.inj next⟩

/-- The first item of a line is followed by the end of the line, or by a blank and more items. -/
theorem exists_break (i : Item) (rest : List Item) (r : List Char) :
    ∃ c r', (c = '\n' ∧ rest = [] ∧ r' = r ∨
        c = ' ' ∧ rest ≠ [] ∧ r' = (lineText rest).toList ++ '\n' :: r) ∧
      (lineText (i :: rest)).toList ++ '\n' :: r = i.text.toList ++ c :: r' := by
  cases rest with
  | nil => exact ⟨'\n', r, Or.inl ⟨rfl, rfl, rfl⟩, by rw [lineText_singleton]⟩
  | cons j rest =>
    refine ⟨' ', _, Or.inr ⟨rfl, by simp, rfl⟩, ?_⟩
    simp [lineText_cons_cons, String.toList_append]

theorem LineFits.head {stage : Stage} {i : Item} {rest : List Item}
    (fits : LineFits stage (i :: rest)) : i.Fits stage := by
  cases rest with
  | nil => exact fits
  | cons j rest => exact fits.1

theorem LineFits.tail {stage : Stage} {i : Item} {rest : List Item}
    (fits : LineFits stage (i :: rest)) (more : rest ≠ []) :
    stage ≠ .value ∧ LineFits (stage.next i) rest := by
  cases rest with
  | nil => exact absurd rfl more
  | cons j rest => exact fits.2

/-- At the stage of an option's value, the whole rest of the line is one item. -/
theorem LineFits.eq_raw {items : List Item} (fits : LineFits .value items) :
    ∃ text, items = [.raw text] ∧ '\n' ∉ text.toList := by
  match items, fits with
  | [.raw text], fits => exact ⟨text, rfl, fits.2⟩
  | [.bare _], fits => exact absurd rfl fits.1
  | [.quoted _], fits => exact absurd rfl fits.1
  | _ :: _ :: _, fits => exact absurd rfl fits.2.1

/-- The rest of a line can be read in one way only. -/
theorem line_unique {stage : Stage} {items items' : List Item} {r r' : List Char}
    (fits : LineFits stage items) (fits' : LineFits stage items')
    (h : (lineText items).toList ++ '\n' :: r = (lineText items').toList ++ '\n' :: r') :
    items = items' ∧ r = r' := by
  induction items generalizing stage items' with
  | nil => exact absurd fits id
  | cons i rest ih =>
    by_cases value : stage = .value
    · -- the value of an option reaches to the end of the line, whatever is in it
      subst value
      obtain ⟨text, is, line⟩ := fits.eq_raw
      obtain ⟨text', is', line'⟩ := fits'.eq_raw
      rw [is, is', lineText_singleton, lineText_singleton] at h
      obtain ⟨same, -, next⟩ := append_cons_inj (· = '\n')
        (fun x hx ends => line (ends ▸ hx)) (fun x hx ends => line' (ends ▸ hx)) rfl rfl h
      exact ⟨by rw [is, is', String.toList_inj.1 same], next⟩
    · cases items' with
      | nil => exact absurd fits' id
      | cons i' rest' =>
        obtain ⟨c, s, first, text⟩ := exists_break i rest r
        obtain ⟨c', s', first', text'⟩ := exists_break i' rest' r'
        have hc : isBreak c := first.elim (fun e => Or.inr e.1) (fun e => Or.inl e.1)
        have hc' : isBreak c' := first'.elim (fun e => Or.inr e.1) (fun e => Or.inl e.1)
        rw [text, text'] at h
        obtain ⟨rfl, rfl, rfl⟩ := item_unique value fits.head fits'.head hc hc' h
        -- both lines end after this item, or neither does
        rcases first with ⟨rfl, rfl, rfl⟩ | ⟨rfl, more, rfl⟩
        · rcases first' with ⟨-, rfl, rfl⟩ | ⟨blank, -, -⟩
          · exact ⟨rfl, rfl⟩
          · exact absurd blank (by decide)
        · rcases first' with ⟨newline, -, -⟩ | ⟨-, more', others⟩
          · exact absurd newline (by decide)
          · obtain ⟨rfl, next⟩ := ih (fits.tail more).2 (fits'.tail more').2 others
            exact ⟨rfl, next⟩

theorem linesText_cons (items : List Item) (lines : List (List Item)) :
    (linesText (items :: lines)).toList =
      (lineText items).toList ++ '\n' :: (linesText lines).toList := by
  simp [linesText, String.toList_append]

/-- A text is that of one list of lines only. -/
theorem lines_unique {lines lines' : List (List Item)} (fits : ∀ l ∈ lines, LineFits .start l)
    (fits' : ∀ l ∈ lines', LineFits .start l) (same : linesText lines = linesText lines') :
    lines = lines' := by
  induction lines generalizing lines' with
  | nil =>
    cases lines' with
    | nil => rfl
    | cons l' rest' =>
      have same := congrArg String.toList same
      rw [linesText_cons] at same
      exact absurd same (by simp [linesText])
  | cons l rest ih =>
    have same := congrArg String.toList same
    cases lines' with
    | nil =>
      rw [linesText_cons] at same
      exact absurd same (by simp [linesText])
    | cons l' rest' =>
      rw [linesText_cons, linesText_cons] at same
      obtain ⟨rfl, others⟩ := line_unique (fits l List.mem_cons_self)
        (fits' l' List.mem_cons_self) same
      rw [ih (fun m hm => fits m (List.mem_cons_of_mem l hm))
        (fun m hm => fits' m (List.mem_cons_of_mem l hm)) (String.toList_inj.1 others)]

/-! ## Indentation and empty lines -/

/-- A line behind a level of indentation. -/
def indented (level : Nat) (items : List Item) : List Item :=
  List.replicate (indentWidth * level) (.bare "") ++ items

/-- An empty line. -/
def emptyLine : List Item := [.bare ""]

/-- What is left of lines without the indentation and without empty lines. -/
def significant (lines : List (List Item)) : List (List Item) :=
  (lines.map (·.dropWhile (· == .bare ""))).filter (!·.isEmpty)

/-- Items that begin a line behind its indentation. -/
def Leads (items : List Item) : Prop :=
  ∃ i rest, items = i :: rest ∧ i ≠ .bare ""

theorem lineText_indented (level : Nat) {items : List Item} (some : items ≠ []) :
    lineText (indented level items) = blanks (indentWidth * level) ++ lineText items := by
  unfold indented blanks
  induction indentWidth * level with
  | zero => simp
  | succ n ih =>
    obtain ⟨j, rest, next⟩ : ∃ j rest, List.replicate n (.bare "") ++ items = j :: rest :=
      List.exists_cons_of_ne_nil (by simp [some])
    rw [List.replicate_succ, List.cons_append, next, lineText_cons_cons, ← next, ih,
      List.replicate_succ, ← List.singleton_append, String.ofList_append, Item.text,
      String.empty_append, String.append_assoc]

theorem linesText_append (lines lines' : List (List Item)) :
    linesText (lines ++ lines') = linesText lines ++ linesText lines' := by
  simp [linesText]

theorem linesText_emptyLines (n : Nat) :
    linesText (List.replicate n emptyLine) = String.ofList (List.replicate n '\n') := by
  induction n with
  | zero => rfl
  | succ n ih =>
    have one : linesText [emptyLine] = "\n" := by
      simp [linesText, emptyLine, Item.text]
    rw [List.replicate_succ, List.replicate_succ, ← List.singleton_append, linesText_append, ih,
      one, ← List.singleton_append, String.ofList_append]

theorem linesText_indented (level : Nat) {lines : List (List Item)} (lead : ∀ l ∈ lines, Leads l) :
    linesText (lines.map (indented level)) =
      String.join ((lines.map lineText).map (lineAt level)) := by
  rw [linesText, List.map_map, List.map_map]
  congr 1
  refine List.map_congr_left fun l hl => ?_
  obtain ⟨i, rest, rfl, -⟩ := lead l hl
  simp only [Function.comp_apply, lineText_indented level (List.cons_ne_nil i rest), lineAt]

theorem lineFits_indented (level : Nat) {items : List Item} (fits : LineFits .start items) :
    LineFits .start (indented level items) := by
  unfold indented
  induction indentWidth * level with
  | zero => exact fits
  | succ n ih =>
    have blank : Item.Fits .start (.bare "") := ⟨by decide, by simp⟩
    rw [List.replicate_succ, List.cons_append]
    cases next : List.replicate n (.bare "") ++ items with
    | nil => exact blank
    | cons j rest => exact ⟨blank, by decide, next ▸ ih⟩

theorem lineFits_emptyLine : LineFits .start emptyLine :=
  ⟨by decide, by simp⟩

theorem significant_append (lines lines' : List (List Item)) :
    significant (lines ++ lines') = significant lines ++ significant lines' := by
  simp [significant]

theorem significant_emptyLines (n : Nat) : significant (List.replicate n emptyLine) = [] := by
  simp [significant, emptyLine]

theorem significant_indented (level : Nat) {lines : List (List Item)}
    (lead : ∀ l ∈ lines, Leads l) : significant (lines.map (indented level)) = lines := by
  induction lines with
  | nil => rfl
  | cons l rest ih =>
    obtain ⟨i, others, rfl, notBlank⟩ := lead l List.mem_cons_self
    have kept : (indented level (i :: others)).dropWhile (· == .bare "") = i :: others := by
      unfold indented
      rw [List.dropWhile_append_of_pos (by simp),
        List.dropWhile_cons_of_neg (by simpa using notBlank)]
    have rest := ih fun m hm => lead m (List.mem_cons_of_mem _ hm)
    simp only [significant, List.map_cons, List.map_map] at rest ⊢
    simp [kept, rest]

end SceneScript.Writer
