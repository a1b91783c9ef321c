import SceneScript.Param.Dictionary
import SceneScript.Proofs.Scalar.Text

/-!
# Spelling

Which characters a text may have. Words that the library adds of its own have no newline, and are
spelled in every alphabet; other texts come from the parameters that a rule is given. So the texts
that come out of a rule are spelled as those that went in, whatever the alphabet: with all
characters (`Alphabet.full`), or without the newline (`Alphabet.line`).
-/

set_option autoImplicit false

namespace SceneScript

/-- A set of characters that has all but perhaps the newline, and those of all numbers; and the
texts that a line may begin with, which are all but perhaps the empty one and those that begin with
a blank. -/
structure Alphabet (α : Type) [Scalar α] where
  Has : Char → Prop
  Starts : String → Prop
  has_of_ne_newline : ∀ {c : Char}, c ≠ '\n' → Has c
  has_of_mem_number : ∀ {x : α} {c : Char}, c ∈ (Scalar.text x).toList → Has c
  starts_of_head : ∀ {s : String} {c : Char}, s.toList.head? = some c → c ≠ ' ' → Starts s
  starts_number : ∀ x : α, Starts (Scalar.text x)
  starts_append : ∀ {s : String} (t : String), Starts s → Starts (s ++ t)

namespace Alphabet

variable {α : Type} [Scalar α]

/-- All characters. -/
def full : Alphabet α where
  Has _ := True
  Starts _ := True
  has_of_ne_newline _ := trivial
  has_of_mem_number _ := trivial
  starts_of_head _ _ := trivial
  starts_number _ := trivial
  starts_append _ _ := trivial

/-- The characters of one line, which begins with no blank. -/
def line [LawfulText α] : Alphabet α where
  Has c := c ≠ '\n'
  Starts s := ∃ c, s.toList.head? = some c ∧ c ≠ ' '
  has_of_ne_newline := id
  has_of_mem_number h := by
    rintro rfl
    exact LawfulText.not_delimiter h (by simp [delimiters])
  starts_of_head head notBlank := ⟨_, head, notBlank⟩
  starts_number x := by
    cases chars : (Scalar.text x).toList with
    | nil => exact absurd (String.toList_eq_nil_iff.1 chars) (LawfulText.text_ne_empty x)
    | cons c rest =>
      refine ⟨c, rfl, ?_⟩
      rintro rfl
      exact LawfulText.not_delimiter (x := x) (by rw [chars]; exact List.mem_cons_self)
        (by simp [delimiters])
  starts_append t := by
    rintro ⟨c, head, notBlank⟩
    exact ⟨c, by rw [String.toList_append, List.head?_append, head]; rfl, notBlank⟩

/-- Whether a text has characters of the alphabet only. -/
def Spells (A : Alphabet α) (s : String) : Prop :=
  ∀ c ∈ s.toList, A.Has c

variable (A : Alphabet α)

/-! ## Texts -/

/-- What the library says in one line of its own is spelled in every alphabet. -/
theorem spells_of_line {s : String} (line : '\n' ∉ s.toList) : A.Spells s := by
  intro c hc
  apply A.has_of_ne_newline
  rintro rfl
  exact line hc

theorem spells_number (x : α) : A.Spells (Scalar.text x) :=
  fun _ hc => A.has_of_mem_number hc

variable {A}

theorem Spells.append {s t : String} (hs : A.Spells s) (ht : A.Spells t) : A.Spells (s ++ t) := by
  intro c hc
  rw [String.toList_append, List.mem_append] at hc
  exact hc.elim (hs c) (ht c)

theorem Spells.join {ss : List String} (each : ∀ s ∈ ss, A.Spells s) :
    A.Spells (String.join ss) := by
  intro c hc
  rw [String.toList_join, List.mem_flatMap] at hc
  obtain ⟨s, hs, hc⟩ := hc
  exact each s hs c hc

theorem Spells.intercalate {separator : String} {ss : List String} (between : A.Spells separator)
    (each : ∀ s ∈ ss, A.Spells s) : A.Spells (separator.intercalate ss) := by
  induction ss with
  | nil => exact A.spells_of_line (by simp)
  | cons s rest ih =>
    cases rest with
    | nil => simpa using each s List.mem_cons_self
    | cons t rest =>
      rw [String.intercalate_cons_cons]
      have others := ih fun u hu => each u (List.mem_cons_of_mem s hu)
      exact ((each s List.mem_cons_self).append between).append others

end Alphabet

/-! ## Parameters -/

namespace Param

variable {α : Type} [Scalar α] (A : Alphabet α)

/-- A parameter whose texts are spelled in an alphabet. -/
structure Spelled (p : Param α) : Prop where
  type : A.Spells p.type
  name : A.Spells p.name
  strings : ∀ s ∈ p.strings, A.Spells s

variable {A}

theorem Spelled.push {p : Param α} (spelled : p.Spelled A) {v : ParamValue α}
    (value : ∀ s, v = .string s → A.Spells s) : (p.push v).Spelled A := by
  cases v with
  | number x => exact ⟨spelled.type, spelled.name, spelled.strings⟩
  | bool b => exact ⟨spelled.type, spelled.name, spelled.strings⟩
  | string s =>
    refine ⟨spelled.type, spelled.name, fun t ht => ?_⟩
    rcases List.mem_append.1 ht with old | new
    · exact spelled.strings t old
    · rw [List.mem_singleton.1 new]
      exact value s rfl

/-- A definition is spelled as its type, its name and its strings are. -/
theorem spelled_define {type name : String} {values : List (ParamValue α)}
    (typeSpelled : A.Spells type) (nameSpelled : A.Spells name)
    (strings : ∀ s, .string s ∈ values → A.Spells s) : (define type name values).Spelled A := by
  unfold define ofValues
  have start : ({ type, name, loc := .unknown } : Param α).Spelled A :=
    ⟨typeSpelled, nameSpelled, by simp⟩
  revert start
  generalize ({ type, name, loc := .unknown } : Param α) = p
  intro start
  induction values generalizing p with
  | nil => exact start
  | cons v rest ih =>
    apply ih (fun s hs => strings s (List.mem_cons_of_mem v hs))
    exact start.push fun s hs => strings s (by simp [hs])

theorem spells_valueText {v : ParamValue α} (value : ∀ s, v = .string s → A.Spells s) :
    A.Spells (valueText v) := by
  cases v with
  | number x => exact A.spells_number x
  | string s =>
    have quote : A.Spells "\"" := A.spells_of_line (by simp)
    exact (quote.append (value s rfl)).append quote
  | bool b =>
    cases b with
    | false => exact A.spells_of_line (s := "\"false\"") (by simp)
    | true => exact A.spells_of_line (s := "\"true\"") (by simp)

/-- The text of a parameter is spelled as its type, its name and its strings are. -/
theorem Spelled.text {p : Param α} (spelled : p.Spelled A) : A.Spells p.text := by
  have listed : A.Spells (" ".intercalate (p.values.map valueText)) := by
    refine Alphabet.Spells.intercalate (A.spells_of_line (by simp)) fun s hs => ?_
    obtain ⟨v, hv, rfl⟩ := List.mem_map.1 hs
    refine spells_valueText fun t ht => spelled.strings t ?_
    subst ht
    simpa [values] using hv
  have quote : A.Spells "\"" := A.spells_of_line (by simp)
  have blank : A.Spells " " := A.spells_of_line (by simp)
  have opening : A.Spells "\" [ " := A.spells_of_line (by simp)
  have closing : A.Spells " ]" := A.spells_of_line (by simp)
  exact (((((quote.append spelled.type).append blank).append spelled.name).append opening).append
    listed).append closing

end Param

/-! ## Dictionaries -/

namespace Dictionary

variable {α : Type}

/-- What a lookup returns is one of the parameters. -/
theorem mem_params_of_lookup {wanted : Param α → Bool} {d : Dictionary α} {p : Param α}
    (found : (d.lookup wanted).1 = some p) : p ∈ d.params := by
  have own := map_fst_markLast wanted d.own
  have inherited := map_fst_markLast wanted d.inherited
  unfold lookup at found
  split at found
  · rename_i q marked h
    obtain rfl : q = p := Option.some.inj found
    rw [h] at own
    have mem := List.mem_of_find?_eq_some own.symm
    simp only [List.mem_reverse] at mem
    simp only [params, entries, List.map_append, List.mem_append]
    exact Or.inl mem
  · split at found
    · rename_i q marked h
      obtain rfl : q = p := Option.some.inj found
      rw [h] at inherited
      have mem := List.mem_of_find?_eq_some inherited.symm
      simp only [List.mem_reverse] at mem
      simp only [params, entries, List.map_append, List.mem_append]
      exact Or.inr mem
    · exact absurd found (by simp)

theorem params_ask {β : Type} (type name : String) (read : Option (Param α) → β)
    (d : Dictionary α) : (ask type name read d).2.params = d.params := by
  simp [ask]

theorem params_hasColor (name : String) (d : Dictionary α) :
    (hasColor name d).2.params = d.params := by
  simp [hasColor]

theorem mem_params_removeWhere {dropped : Param α → Bool} {d : Dictionary α} {p : Param α}
    (h : p ∈ (d.removeWhere dropped).params) : p ∈ d.params := by
  simp only [params, entries, removeWhere, List.map_append, List.mem_append, List.mem_map,
    List.mem_filter] at h ⊢
  rcases h with ⟨e, ⟨he, -⟩, rfl⟩ | ⟨e, ⟨he, -⟩, rfl⟩
  · exact Or.inl ⟨e, he, rfl⟩
  · exact Or.inr ⟨e, he, rfl⟩

theorem mem_params_rename {before after : String} {d : Dictionary α} {p : Param α}
    (h : p ∈ (d.rename before after).params) :
    p ∈ d.params ∨ ∃ q ∈ d.params, p = { q with name := after } := by
  have one (e : DictEntry α) : (renameEntry before after e).param = e.param ∨
      (renameEntry before after e).param = { e.param with name := after } := by
    unfold renameEntry
    split
    · exact Or.inr rfl
    · exact Or.inl rfl
  simp only [params, entries, rename, ← List.map_append, List.map_map, List.mem_map] at h ⊢
  obtain ⟨e, he, rfl⟩ := h
  rcases one e with same | renamed
  · exact Or.inl ⟨e, he, same.symm⟩
  · exact Or.inr ⟨e.param, ⟨e, he, rfl⟩, renamed⟩

variable [Scalar α] (A : Alphabet α)

/-- A dictionary whose parameters are spelled in an alphabet. -/
def Spelled (d : Dictionary α) : Prop :=
  ∀ p ∈ d.params, p.Spelled A

variable {A}

theorem Spelled.removeWhere {d : Dictionary α} (spelled : d.Spelled A) (dropped : Param α → Bool) :
    (d.removeWhere dropped).Spelled A :=
  fun p hp => spelled p (mem_params_removeWhere hp)

theorem Spelled.rename {d : Dictionary α} (spelled : d.Spelled A) {before after : String}
    (name : A.Spells after) : (d.rename before after).Spelled A := by
  intro p hp
  rcases mem_params_rename hp with old | ⟨q, hq, rfl⟩
  · exact spelled p old
  · exact ⟨(spelled q hq).type, name, (spelled q hq).strings⟩

/-- The first string of what a question finds is spelled as the dictionary is, like the empty text
that stands in for it. -/
theorem Spelled.firstString {d : Dictionary α} (spelled : d.Spelled A) (type name : String) :
    A.Spells (ask type name (fun p => (p.bind (·.strings.head?)).getD "") d).1 := by
  unfold ask
  cases found : (d.lookup (hasType type name)).1 with
  | none => simpa [found] using A.spells_of_line (s := "") (by simp)
  | some p =>
    have strings := (spelled p (mem_params_of_lookup found)).strings
    cases first : p.strings.head? with
    | none => simpa [found, first] using A.spells_of_line (s := "") (by simp)
    | some s => simpa [found, first] using strings s (List.mem_of_head? first)

end Dictionary

end SceneScript
