import SceneScript.Proofs.Call.Readings

/-!
# The forms of directives

Every directive has a keyword and a list of arguments, each a number, a text, a list of parameters, a
matrix or a word for slots (`Directive.arguments`). The readings of the grammar give exactly the
directives whose arguments the raw values stand for, in number and in order: a reading is built one
argument at a time, and so is what is known of it (`ArgumentReader.Takes`). The reading of a keyword
gives directives of this keyword only (`reads_own_form`), and every directive is the value of the
reading of its keyword (`exists_reading`).
-/

set_option autoImplicit false

namespace SceneScript

/-- An argument of a directive. -/
inductive Argument (α : Type) where
  | number (x : α)
  | text (s : String)
  | params (ps : List (Param α))
  | matrix (entries : List α)
  | slots (word : SlotWord)

/-- The raw value stands for the argument. -/
def Raw.Describes {α : Type} [Scalar α] (r : Raw α) : Argument α → Prop
  | .number x => r.IsNumber x
  | .text s => r.IsText s
  | .params ps => r.IsList IsParam ps
  | .matrix entries => r.IsList IsNumber entries ∧ entries.length = 16
  | .slots word => r.IsText word.name

namespace Directive

variable {α : Type}

/-- The word with which a directive begins. -/
def keyword : Directive α → String
  | activeTransform _ => "ActiveTransform"
  | d => d.label

/-- The arguments of a directive, in order. -/
def arguments : Directive α → List (Argument α)
  | option name value => [.text name, .text value]
  | translate v | scale v => [.number v.x, .number v.y, .number v.z]
  | rotate degrees axis => [.number degrees, .number axis.x, .number axis.y, .number axis.z]
  | lookAt eye look up =>
    [.number eye.x, .number eye.y, .number eye.z, .number look.x, .number look.y, .number look.z,
      .number up.x, .number up.y, .number up.z]
  | concatTransform entries | transform entries => [.matrix entries]
  | activeTransform slots => [.slots slots]
  | transformTimes opening closing => [.number opening, .number closing]
  | coordinateSystem name | coordSysTransform name | colorSpace name | namedMaterial name
  | objectBegin name | objectInstance name => [.text name]
  | camera name params | film name params | sampler name params | pixelFilter name params
  | integrator name params | accelerator name params | attributes name params
  | material name params | makeNamedMaterial name params | makeNamedMedium name params
  | lightSource name params | areaLightSource name params | shape name params =>
    [.text name, .params params]
  | texture name kind implementation params =>
    [.text name, .text kind, .text implementation, .params params]
  | mediumInterface inside outside => [.text inside, .text outside]
  | identity | worldBegin | worldEnd | attributeBegin | attributeEnd | transformBegin
  | transformEnd | reverseOrientation | objectEnd => []

/-- The raw values stand for the arguments of the directive; a single name of a medium stands for
both names. -/
def Takes [Scalar α] (d : Directive α) (rs : List (Raw α)) : Prop :=
  List.Forall₂ Raw.Describes rs d.arguments ∨
    ∃ both, d = mediumInterface both both ∧ rs = [.string both]

end Directive

/-- Two lists are related item by item if all but the last items are, and the last ones. -/
theorem forall₂_concat_iff {β γ : Type} {R : β → γ → Prop} {bs : List β} {cs : List γ} {b : β}
    {c : γ} : List.Forall₂ R (bs ++ [b]) (cs ++ [c]) ↔ List.Forall₂ R bs cs ∧ R b c := by
  rw [← List.forall₂_reverse_iff, List.reverse_append, List.reverse_append, List.reverse_singleton,
    List.reverse_singleton, List.singleton_append, List.singleton_append, List.forall₂_cons,
    List.forall₂_reverse_iff, and_comm]

/-! ## Readings of argument lists -/

namespace ArgumentReader

open Checked

variable {α β γ τ : Type} [Scalar α]

/-- The reader gives the values that are made of some `τ`, for raw values that stand for the arguments
of such a `τ`. It looks at no argument in excess. -/
structure Takes (a : ArgumentReader α β) (value : τ → β) (arguments : τ → List (Argument α)) :
    Prop where
  length : ∀ t, (arguments t).length = a.arity
  read_iff : ∀ (rs extra : List (Raw α)) (b : β), rs.length = a.arity →
    (a.read (rs ++ extra) = .valid b ↔
      ∃ t, value t = b ∧ List.Forall₂ Raw.Describes rs (arguments t))

theorem takes_none (b : β) :
    (none b : ArgumentReader α β).Takes (fun _ : Unit => b) fun _ => [] := by
  refine ⟨fun _ => rfl, fun rs extra b' empty => ?_⟩
  obtain rfl := List.length_eq_zero_iff.1 empty
  simp [none]

namespace Takes

variable {a : ArgumentReader α β} {value : τ → β} {arguments : τ → List (Argument α)}

/-- One argument more. -/
theorem arg {a : ArgumentReader α (γ → β)} {value : τ → γ → β} (takes : a.Takes value arguments)
    {s : Schema α γ} {kind : γ → Argument α}
    (faithful : s.Faithful fun r x => r.Describes (kind x)) :
    (a.arg s).Takes (fun t : τ × γ => value t.1 t.2) fun t => arguments t.1 ++ [kind t.2] := by
  refine ⟨fun t => by simp [ArgumentReader.arg, takes.length], fun rs extra b length => ?_⟩
  obtain ⟨init, r, rfl⟩ : ∃ init r, rs = init ++ [r] := by
    apply (List.eq_nil_or_concat' rs).resolve_left
    rintro rfl
    exact nomatch length
  have init_length : init.length = a.arity := by simpa [ArgumentReader.arg] using length
  -- the others are read as if the new argument were in excess
  have last : ((init ++ [r] ++ extra)[a.arity]?).getD .missing = r := by
    rw [← init_length]
    simp
  have front : init ++ [r] ++ extra = init ++ (r :: extra) := by simp
  simp only [ArgumentReader.arg, ap_eq_valid_iff, under_eq_valid_iff, last]
  rw [front]
  simp only [takes.read_iff init (r :: extra) _ init_length, faithful r, forall₂_concat_iff,
    Prod.exists]
  constructor
  · rintro ⟨_, ⟨t, rfl, described⟩, x, stands, rfl⟩
    exact ⟨t, x, rfl, described, stands⟩
  · rintro ⟨t, x, rfl, described, stands⟩
    exact ⟨_, ⟨t, rfl, described⟩, x, stands, rfl⟩

/-- A whole argument list. -/
theorem run_iff (takes : a.Takes value arguments) {rs : List (Raw α)} {b : β} :
    a.run rs = .valid b ↔ ∃ t, value t = b ∧ List.Forall₂ Raw.Describes rs (arguments t) := by
  have fits : (∃ t, value t = b ∧ List.Forall₂ Raw.Describes rs (arguments t)) →
      rs.length = a.arity := by
    rintro ⟨t, -, described⟩
    exact described.length_eq.trans (takes.length t)
  rw [run]
  split
  · rename_i short
    exact ⟨fun read => absurd read problem_ne_valid, fun some => absurd (fits some) (by omega)⟩
  · split
    · rename_i long
      rw [after_eq_valid_iff]
      exact ⟨fun read => (nomatch read.1), fun some => absurd (fits some) (by omega)⟩
    · have read := takes.read_iff rs [] b (by omega)
      rwa [List.append_nil] at read

end Takes

end ArgumentReader

/-! ## Readings of keywords -/

namespace Grammar

open ArgumentReader Checked Schema

variable {α τ : Type} [Scalar α]

/-- The reading gives directives that are made of some `τ`, for raw values that stand for the
arguments of such a `τ`. -/
def Reads (rule : Rule α) (make : τ → Directive α) (arguments : τ → List (Argument α)) : Prop :=
  ∀ rs d, rule rs = .valid d ↔
    ∃ t, make t = d ∧ List.Forall₂ Raw.Describes rs (arguments t)

/-- The reading gives directives of a keyword only, for raw values that stand for their arguments. -/
def ReadsOwn (keyword : String) (rule : Rule α) : Prop :=
  ∀ rs d, rule rs = .valid d → d.keyword = keyword ∧ d.Takes rs

theorem Reads.own {rule : Rule α} {make : τ → Directive α} {arguments : τ → List (Argument α)}
    {keyword : String} (reads : Reads rule make arguments)
    (named : ∀ t, (make t).keyword = keyword) (same : ∀ t, (make t).arguments = arguments t) :
    ReadsOwn keyword rule := by
  intro rs d read
  obtain ⟨t, rfl, described⟩ := (reads rs d).1 read
  exact ⟨named t, Or.inl (by rwa [same])⟩

theorem Reads.complete {rule : Rule α} {make : τ → Directive α}
    {arguments : τ → List (Argument α)} (reads : Reads rule make arguments) {rs : List (Raw α)}
    {d : Directive α} (some : ∃ t, make t = d ∧ List.Forall₂ Raw.Describes rs (arguments t)) :
    rule rs = .valid d :=
  (reads rs d).2 some

/-- The same, made of something else. -/
theorem Reads.reindex {σ : Type} {rule : Rule α} {make : τ → Directive α}
    {arguments : τ → List (Argument α)} (reads : Reads rule make arguments) (f : σ → τ)
    (onto : Function.Surjective f) : Reads rule (fun x => make (f x)) fun x => arguments (f x) := by
  intro rs d
  rw [reads rs d, onto.exists]

theorem reads_run {a : ArgumentReader α (Directive α)} {make : τ → Directive α}
    {arguments : τ → List (Argument α)} (takes : a.Takes make arguments) :
    Reads a.run make arguments :=
  fun _ _ => takes.run_iff

/-! ### Families of keywords -/

theorem exactCount_eq_nil_iff {count n : Nat} {few many : Issue} :
    (if n < count then [few] else if count < n then [many] else []) = [] ↔ n = count := by
  split
  · simp; omega
  · split
    · simp; omega
    · simp; omega

theorem faithful_matrix : (listOf 16 (number (α := α))).Faithful fun r entries =>
    r.Describes (.matrix entries) := by
  intro r entries
  rw [listOf, faithful_number.listWith]
  simp only [exactCount_eq_nil_iff]
  constructor
  · rintro ⟨rs, rfl, length, described⟩
    exact ⟨⟨rs, rfl, described⟩, described.length_eq.symm.trans length⟩
  · rintro ⟨⟨rs, rfl, described⟩, length⟩
    exact ⟨rs, rfl, described.length_eq.trans length, described⟩

theorem faithful_slots :
    (word (α := α) (spelled slotWords SlotWord.name)).Faithful fun r w => r.Describes (.slots w) :=
  faithful_word fun w => by cases w <;> rfl

theorem number_argument :
    (number (α := α)).Faithful fun r x => r.Describes (.number x) :=
  faithful_number

theorem text_argument : (text (α := α)).Faithful fun r s => r.Describes (.text s) :=
  faithful_text

theorem params_argument : (params (α := α)).Faithful fun r ps => r.Describes (.params ps) :=
  faithful_params

theorem reads_bare (d : Directive α) : Reads (bare d) (fun _ : Unit => d) fun _ => [] :=
  reads_run (takes_none d)

theorem reads_named (make : String → Directive α) :
    Reads (named make) make fun name => [.text name] :=
  (reads_run ((takes_none make).arg text_argument)).reindex (fun name => ((), name))
    fun t => ⟨t.2, rfl⟩

theorem reads_entity (make : String → List (Param α) → Directive α) :
    Reads (entity make) (fun t : String × List (Param α) => make t.1 t.2)
      fun t => [.text t.1, .params t.2] :=
  (reads_run (((takes_none make).arg text_argument).arg params_argument)).reindex
    (fun t : String × List (Param α) => (((), t.1), t.2)) fun t => ⟨(t.1.2, t.2), rfl⟩

theorem reads_twoTexts (make : String → String → Directive α) :
    Reads (twoTexts make) (fun t : String × String => make t.1 t.2)
      fun t => [.text t.1, .text t.2] :=
  (reads_run (((takes_none make).arg text_argument).arg text_argument)).reindex
    (fun t : String × String => (((), t.1), t.2)) fun t => ⟨(t.1.2, t.2), rfl⟩

theorem reads_twoNumbers (make : α → α → Directive α) :
    Reads (twoNumbers make) (fun t : α × α => make t.1 t.2) fun t => [.number t.1, .number t.2] :=
  (reads_run (((takes_none make).arg number_argument).arg number_argument)).reindex
    (fun t : α × α => (((), t.1), t.2)) fun t => ⟨(t.1.2, t.2), rfl⟩

theorem reads_vector (make : Vec3 α → Directive α) :
    Reads (vector make) make fun v => [.number v.x, .number v.y, .number v.z] :=
  (reads_run ((((takes_none _).arg number_argument).arg number_argument).arg
    number_argument)).reindex
      (fun v : Vec3 α => ((((), v.x), v.y), v.z)) fun t => ⟨⟨t.1.1.2, t.1.2, t.2⟩, rfl⟩

theorem reads_angleAndAxis (make : α → Vec3 α → Directive α) :
    Reads (angleAndAxis make) (fun t : α × Vec3 α => make t.1 t.2)
      fun t => [.number t.1, .number t.2.x, .number t.2.y, .number t.2.z] :=
  (reads_run (((((takes_none _).arg number_argument).arg number_argument).arg number_argument).arg
    number_argument)).reindex
      (fun t : α × Vec3 α => (((((), t.1), t.2.x), t.2.y), t.2.z))
      fun t => ⟨(t.1.1.1.2, ⟨t.1.1.2, t.1.2, t.2⟩), rfl⟩

theorem reads_threeVectors (make : Vec3 α → Vec3 α → Vec3 α → Directive α) :
    Reads (threeVectors make) (fun t : Vec3 α × Vec3 α × Vec3 α => make t.1 t.2.1 t.2.2)
      fun t => [.number t.1.x, .number t.1.y, .number t.1.z, .number t.2.1.x, .number t.2.1.y,
        .number t.2.1.z, .number t.2.2.x, .number t.2.2.y, .number t.2.2.z] :=
  (reads_run ((((((((((takes_none _).arg number_argument).arg number_argument).arg
    number_argument).arg number_argument).arg number_argument).arg number_argument).arg
    number_argument).arg number_argument).arg number_argument)).reindex
      (fun t : Vec3 α × Vec3 α × Vec3 α => ((((((((((), t.1.x), t.1.y), t.1.z), t.2.1.x), t.2.1.y),
        t.2.1.z), t.2.2.x), t.2.2.y), t.2.2.z))
      fun t => ⟨(⟨t.1.1.1.1.1.1.1.1.2, t.1.1.1.1.1.1.1.2, t.1.1.1.1.1.1.2⟩,
        ⟨t.1.1.1.1.1.2, t.1.1.1.1.2, t.1.1.1.2⟩, ⟨t.1.1.2, t.1.2, t.2⟩), rfl⟩

theorem reads_matrix (make : List α → Directive α) :
    Reads (matrix make) make fun entries => [.matrix entries] :=
  (reads_run ((takes_none make).arg faithful_matrix)).reindex (fun entries => ((), entries))
    fun t => ⟨t.2, rfl⟩

theorem reads_slots :
    Reads (slots (α := α)) .activeTransform fun word => [.slots word] :=
  (reads_run ((takes_none _).arg faithful_slots)).reindex (fun word => ((), word)) fun t => ⟨t.2, rfl⟩

theorem reads_texture (make : String → String → String → List (Param α) → Directive α) :
    Reads (texture make)
      (fun t : String × String × String × List (Param α) => make t.1 t.2.1 t.2.2.1 t.2.2.2)
      fun t => [.text t.1, .text t.2.1, .text t.2.2.1, .params t.2.2.2] :=
  (reads_run (((((takes_none make).arg text_argument).arg text_argument).arg text_argument).arg
    params_argument)).reindex
      (fun t : String × String × String × List (Param α) =>
        (((((), t.1), t.2.1), t.2.2.1), t.2.2.2))
      fun t => ⟨(t.1.1.1.2, t.1.1.2, t.1.2, t.2), rfl⟩

theorem oneOrTwo_eq_nil_iff {n : Nat} : oneOrTwo n = [] ↔ n = 1 ∨ n = 2 := by
  rw [oneOrTwo]
  split
  · simp; omega
  · split
    · simp; omega
    · simp; omega

/-- One or two names, the names of both media. -/
theorem media_eq_valid_iff {rs : List (Raw α)} {d : Directive α} : media rs = .valid d ↔
    (∃ both, d = .mediumInterface both both ∧ rs = [.string both]) ∨
    ∃ inside outside, d = .mediumInterface inside outside ∧
      rs = [.string inside, .string outside] := by
  rw [media, map_eq_valid_iff]
  simp only [faithful_text.listWith _ _, oneOrTwo_eq_nil_iff, Raw.array.injEq, exists_eq_left']
  constructor
  · rintro ⟨names, ⟨few, described⟩, rfl⟩
    rcases described with _ | ⟨rfl, _ | ⟨rfl, _ | ⟨third, others⟩⟩⟩
    · simp at few
    · exact Or.inl ⟨_, rfl, rfl⟩
    · exact Or.inr ⟨_, _, rfl, rfl⟩
    · simp at few
  · rintro (⟨both, rfl, rfl⟩ | ⟨inside, outside, rfl, rfl⟩)
    · exact ⟨[both], ⟨Or.inl rfl, .cons rfl .nil⟩, rfl⟩
    · exact ⟨[inside, outside], ⟨Or.inr rfl, .cons rfl (.cons rfl .nil)⟩, rfl⟩

theorem own_media : ReadsOwn "MediumInterface" (media (α := α)) := by
  intro rs d read
  rcases media_eq_valid_iff.1 read with ⟨both, rfl, rfl⟩ | ⟨inside, outside, rfl, rfl⟩
  · exact ⟨rfl, Or.inr ⟨both, rfl, rfl⟩⟩
  · exact ⟨rfl, Or.inl (.cons rfl (.cons rfl .nil))⟩

/-! ### The table of keywords -/

/-- The reading of every keyword gives directives of this keyword only, for raw values that stand for
their arguments. -/
theorem reads_own_form {keyword : String} {rule : Rule α} (mem : (keyword, rule) ∈ rules) :
    ReadsOwn keyword rule := by
  have all : ∀ entry ∈ rules (α := α), ReadsOwn entry.1 entry.2 := by
    simp only [rules, List.forall_mem_cons]
    repeat' apply And.intro
    -- one goal for each keyword: its reading is of one of the families
    all_goals first
      | with_reducible apply (reads_bare _).own
      | with_reducible apply (reads_named _).own
      | with_reducible apply (reads_entity _).own
      | with_reducible apply (reads_twoTexts _).own
      | with_reducible apply (reads_twoNumbers _).own
      | with_reducible apply (reads_vector _).own
      | with_reducible apply (reads_angleAndAxis _).own
      | with_reducible apply (reads_threeVectors _).own
      | with_reducible apply (reads_matrix _).own
      | with_reducible apply reads_slots.own
      | with_reducible apply (reads_texture _).own
      | exact own_media
      | exact fun _ absent => nomatch absent
    all_goals exact fun _ => rfl
  exact all _ mem

/-- Every directive is what the reading of its keyword gives for raw values that stand for its
arguments. -/
theorem exists_reading {d : Directive α} {rs : List (Raw α)} (takes : d.Takes rs) :
    ∃ rule, rules.lookup d.keyword = some rule ∧ rule rs = .valid d := by
  cases d with
  | mediumInterface inside outside =>
    refine ⟨media, rfl, media_eq_valid_iff.2 ?_⟩
    rcases takes with (_ | ⟨rfl, _ | ⟨rfl, ⟨⟩⟩⟩) | ⟨both, same, rfl⟩
    · exact Or.inr ⟨inside, outside, rfl, rfl⟩
    · exact Or.inl ⟨both, same, rfl⟩
  | _ =>
    rcases takes with described | ⟨_, other, -⟩
    · refine ⟨_, rfl, ?_⟩
      first
        | with_reducible apply (reads_bare _).complete
        | with_reducible apply (reads_named _).complete
        | with_reducible apply (reads_entity _).complete
        | with_reducible apply (reads_twoTexts _).complete
        | with_reducible apply (reads_twoNumbers _).complete
        | with_reducible apply (reads_vector _).complete
        | with_reducible apply (reads_angleAndAxis _).complete
        | with_reducible apply (reads_threeVectors _).complete
        | with_reducible apply (reads_matrix _).complete
        | with_reducible apply reads_slots.complete
        | with_reducible apply (reads_texture _).complete
      first
        | exact ⟨(), rfl, described⟩
        | exact ⟨_, rfl, described⟩
        | exact ⟨(_, _), rfl, described⟩
        | exact ⟨(_, _, _), rfl, described⟩
        | exact ⟨(_, _, _, _), rfl, described⟩
    · exact nomatch other

end Grammar

end SceneScript
