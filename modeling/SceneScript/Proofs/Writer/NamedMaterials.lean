import SceneScript.Proofs.Upgrade.MaterialFaults
import SceneScript.Proofs.Upgrade.UnseenParameters
import SceneScript.Proofs.Writer.Pages
import SceneScript.Scalar.Double

/-!
# Named materials

A named material has its type among its parameters, where a material has it in front. The rule for
materials is blind to that parameter (`blind_material`), so both are brought up to date alike,
wherever the type stands among the other parameters: `run_namedMaterialRule_of_typed` says so of the
rules, `materials_upgrade_alike` of what is printed.
-/

set_option autoImplicit false

namespace SceneScript.Writer

open Dictionary Contents Rule

variable {α : Type}

/-! ## Chunks -/

/-- An action that gives no message. -/
def OnlyChunks (act : Write α Unit) : Prop :=
  ∀ o, ∀ n ∈ (act.run o).notices, n.isChunk = true

namespace OnlyChunks

theorem nothing : OnlyChunks (pure () : Write α Unit) := fun _ => List.forall_mem_nil _

theorem write (text : String) : OnlyChunks (Writer.write text : Write α Unit) :=
  fun _ => List.forall_mem_singleton.2 rfl

theorem bind {act : Write α Unit} {next : Unit → Write α Unit} (first : OnlyChunks act)
    (second : OnlyChunks (next ())) : OnlyChunks (act >>= next) := by
  intro o
  cases done : (act.run o).result with
  | error e =>
    rw [Action.run_bind_of_error next done]
    exact first o
  | ok v =>
    rw [Action.run_bind_of_ok next done]
    exact List.forall_mem_append.2 ⟨first o, second _⟩

theorem get_bind {next : OpenScopes α → Write α Unit} (rest : ∀ o, OnlyChunks (next o)) :
    OnlyChunks (Action.get >>= next) :=
  fun o => rest o o

theorem line (text : String) : OnlyChunks (Writer.line text : Write α Unit) :=
  get_bind fun _ => write _

theorem entity [Scalar α] (header : String) (definitions : List (Param α)) (d : Dictionary α) :
    OnlyChunks (Writer.entity header definitions d) := by
  refine get_bind fun scopes => bind (line header) ?_
  have parameters : OnlyChunks (if d.size ≠ 0
      then Writer.write (d.listing (scopes.depth * indentWidth)) else pure () : Write α Unit) := by
    split
    · exact write _
    · exact nothing
  dsimp only
  split
  · exact bind (write _) parameters
  · exact parameters

end OnlyChunks

/-- The notices put out a text in chunks, and give no message. -/
structure Prints (ns : List (WriteNotice α)) (text : String) : Prop where
  chunks : ∀ n ∈ ns, n.isChunk = true
  text : textOf ns = text

/-- An entity is put out as a page and in chunks alone. -/
theorem prints_entity [Scalar α] (header : String) (definitions : List (Param α)) (d : Dictionary α)
    (o : OpenScopes α) :
    ∃ ns, (entity header definitions d).run o = ⟨.ok (), o, ns⟩ ∧
      Prints ns (Page.text ⟨header, (definitions ++ d.params).map Param.text⟩ o.depth) := by
  obtain ⟨ns, run, text⟩ := puts_entity header definitions d o
  refine ⟨ns, run, ?_, text⟩
  have chunks := OnlyChunks.entity header definitions d o
  rwa [run] at chunks

/-- What is printed of the outcome of a rule that has finished, after its messages. -/
theorem run_applyRule_of_ok {β : Type} {rule : Rule α β} {params : List (Param α)} {b : β}
    {next : β × Dictionary α → Write α Unit} {o : OpenScopes α} {ns : List (WriteNotice α)}
    (finished : (rule.run (dictionary params)).result = .ok b)
    (printed : (next (b, (rule.run (dictionary params)).state)).run o = ⟨.ok (), o, ns⟩) :
    (applyRule rule params >>= next).run o =
      ⟨.ok (), o, (rule.run (dictionary params)).notices.map .message ++ ns⟩ := by
  have applied := Action.run_runOn_of_ok refusal WriteNotice.message o finished
  rw [applyRule, Action.run_bind_of_eq_ok applied, printed]

/-- A rule that refuses leaves nothing to print. -/
theorem run_applyRule_of_error {β : Type} {rule : Rule α β} {params : List (Param α)}
    {e : UpgradeError α} (next : β × Dictionary α → Write α Unit) (o : OpenScopes α)
    (refused : (rule.run (dictionary params)).result = .error e) :
    (applyRule rule params >>= next).run o =
      ⟨.error (refusal e), o, (rule.run (dictionary params)).notices.map .message⟩ := by
  have refusal := Action.run_runOn_of_error refusal WriteNotice.message o refused
  rw [applyRule, Action.run_bind_of_eq_error refusal]

/-! ## The rule for a named material -/

section Insert

variable {before behind : List (Param α)} {p : Param α} {wanted : Param α → Bool}
  (others : ∀ q ∈ before ++ behind, wanted q = false) (one : wanted p = true)

include others one

/-- Without the one parameter that is wanted, the others are left. -/
theorem removeWhere_insert :
    (dictionary (before ++ p :: behind)).contents.removeWhere wanted =
      (dictionary (before ++ behind)).contents := by
  have kept : (before ++ behind).filter (fun q => !wanted q) = before ++ behind := by
    apply List.filter_eq_self.2
    intro q mem
    rw [others q mem, Bool.not_false]
  have dropped : (before ++ p :: behind).filter (fun q => !wanted q) = before ++ behind := by
    rw [List.filter_append, List.filter_cons_of_neg (by simp [one]), ← List.filter_append, kept]
  rw [dictionary, dictionary, contents_ofParams, contents_ofParams, Contents.removeWhere, dropped,
    List.filter_nil]

/-- The one parameter that is wanted answers, wherever it stands. -/
theorem find?_insert : (dictionary (before ++ p :: behind)).contents.find? wanted = some p := by
  have last : behind.reverse.find? wanted = none := by
    apply List.find?_eq_none.2
    intro q mem
    simp [others q (List.mem_append_right _ (List.mem_reverse.1 mem))]
  rw [dictionary, contents_ofParams, Contents.find?, List.reverse_append, List.reverse_cons,
    List.append_assoc, List.find?_append, last]
  simp [one]

end Insert

theorem sees_materialNames :
    Sees Upgrade.materialNames (hasType "string" "type" : Param α → Bool) := by
  intro p mem
  apply hasType_of_name_ne
  intro named
  rw [named] at mem
  exact absurd mem (by decide)

variable [Scalar α] {t : String} {loc : Location α}

/-- The rule for a named material, from a dictionary with the type among its parameters, comes to what
the rule for materials comes to without it. It puts the present type in front of the definitions and
leaves the same parameters. -/
theorem run_namedMaterialRule_of_typed {d typed : Dictionary α}
    (untyped : typed.contents.removeWhere (hasType "string" "type") = d.contents)
    (named : typed.contents.word "string" "type" = t) :
    let plain := (Upgrade.material t loc).run d
    let after := (namedMaterialRule loc).run typed
    after.notices = plain.notices ∧
    (∀ e, plain.result = .error e → after.result = .error e) ∧
    ∀ u, plain.result = .ok u →
      after.result = .ok (stringDefinition "type" u.name :: u.definitions) ∧
        after.state.contents = plain.state.contents := by
  intro plain after
  let read := (oneString "type" "" typed).2
  have asked : (look (oneString "type" "")).run typed = ⟨.ok t, read, []⟩ := by
    have answer : (oneString "type" "" typed).1 = t := by
      rw [← named]
      exact fst_ask typed "string" "type" _
    rw [← answer]
    rfl
  have lacks : d.contents.Lacks "string" "type" := untyped ▸ lacks_remove
  have none {c : Contents α} (h : c.Lacks "string" "type") :
      c.removeWhere (hasType "string" "type") = c :=
    removeWhere_of_none (find?_eq_none_iff.1 h)
  -- both dictionaries are the same but for the type
  have same : SameBut (hasType "string" "type") d.contents read.contents := by
    rw [SameBut, none lacks, ← untyped]
    exact congrArg _ (contents_ask typed "string" "type" _).symm
  have blind : (Upgrade.material t loc).Blind (hasType "string" "type") :=
    Upgrade.blind_material sees_materialNames
  obtain ⟨result, notices, left⟩ := blind d read same
  have run : after = _ := Action.run_bind_of_eq_ok asked
  rw [run]
  dsimp only
  cases upgraded : plain.result with
  | error e =>
    have refused : ((Upgrade.material t loc).run read).result = .error e := result.symm.trans upgraded
    rw [Action.run_bind_of_error _ refused]
    refine ⟨notices.symm, ?_, ?_⟩
    · rintro _ ⟨⟩
      rfl
    · rintro _ ⟨⟩
  | ok u =>
    have finished : ((Upgrade.material t loc).run read).result = .ok u := result.symm.trans upgraded
    rw [Action.run_bind_of_ok _ finished]
    refine ⟨?_, ?_, ?_⟩
    · exact (List.append_nil _).trans notices.symm
    · rintro _ ⟨⟩
    · rintro _ ⟨⟩
      refine ⟨rfl, ?_⟩
      -- the removal of the type is all that sets the left parameters apart
      have still : plain.state.contents.Lacks "string" "type" :=
        (Upgrade.revised_material t loc d rfl u upgraded).trimmed.lacks (by decide) lacks
      have removed : _ = _ := contents_removeWhere
        ((Upgrade.material t loc).run read).state (hasType "string" "type")
      exact removed.trans (left.symm.trans (none still))

/-! ## What is printed -/

/-- The line that a named material has for its type. -/
def typeLine (present : String) : String :=
  "\"string type\" [ " ++ quoted present ++ " ]"

theorem text_type (present : String) :
    (stringDefinition "type" present : Param α).text = typeLine present := by
  have values : " ".intercalate ((stringDefinition "type" present : Param α).values.map
      Param.valueText) = quoted present := String.intercalate_singleton
  have header : "\"" ++ "string" ++ " " ++ "type" ++ "\" [ " = "\"string type\" [ " := by decide
  rw [Param.text, values]
  exact congrArg (· ++ quoted present ++ " ]") header

/-- A material and a named material of the same type are brought up to date alike, wherever the type
stands among the parameters of the latter. Either both are refused, for the same reason, or both are
put out as pages with the same lines under the header, but that the first line of the named material
gives the present type, which the material has in its header. The messages are the same. -/
theorem materials_upgrade_alike (before behind : List (Param α)) (type : Param α) (t name : String)
    (loc : Location α) (o : OpenScopes α) (typed : hasType "string" "type" type = true)
    (given : type.strings.head? = some t)
    (untyped : ∀ p ∈ before ++ behind, hasType "string" "type" p = false) :
    let plain := (interpret true (.material t (before ++ behind)) loc).run o
    let named := (interpret true (.makeNamedMaterial name (before ++ type :: behind)) loc).run o
    ∃ ms : List (Message α),
      (∃ e, plain = ⟨.error e, o, ms.map .message⟩ ∧ named = ⟨.error e, o, ms.map .message⟩) ∨
      ∃ present further ns ns',
        plain = ⟨.ok (), o, ms.map .message ++ ns⟩ ∧
        Prints ns (Page.text ⟨"Material " ++ quoted present, further⟩ o.depth) ∧
        named = ⟨.ok (), o, ms.map .message ++ ns'⟩ ∧
        Prints ns' (Page.text
          ⟨"MakeNamedMaterial " ++ quoted name, typeLine present :: further⟩ o.depth) := by
  intro plain named
  let d := dictionary (before ++ behind)
  let d' := dictionary (before ++ type :: behind)
  have removed : d'.contents.removeWhere (hasType "string" "type") = d.contents :=
    removeWhere_insert untyped typed
  have word : d'.contents.word "string" "type" = t := by
    rw [Contents.word, find?_insert untyped typed]
    simp [given]
  obtain ⟨notices, refuses, finishes⟩ := run_namedMaterialRule_of_typed removed word
  refine ⟨((Upgrade.material t loc).run d).notices, ?_⟩
  cases upgraded : ((Upgrade.material t loc).run d).result with
  | error e =>
    refine Or.inl ⟨refusal e, run_applyRule_of_error _ o upgraded, ?_⟩
    rw [← notices]
    exact run_applyRule_of_error _ o (refuses e upgraded)
  | ok u =>
    obtain ⟨finished, left⟩ := finishes u upgraded
    have params : ((namedMaterialRule loc).run d').state.params =
        ((Upgrade.material t loc).run d).state.params := by
      rw [← params_contents, left, params_contents]
    obtain ⟨ns, run, prints⟩ := prints_entity ("Material" ++ " " ++ quoted u.name) u.definitions
      ((Upgrade.material t loc).run d).state o
    obtain ⟨ns', run', prints'⟩ := prints_entity ("MakeNamedMaterial " ++ quoted name)
      (stringDefinition "type" u.name :: u.definitions) ((namedMaterialRule loc).run d').state o
    rw [params, List.cons_append, List.map_cons, text_type] at prints'
    refine Or.inr ⟨u.name, _, ns, ns', run_applyRule_of_ok upgraded run, prints, ?_, prints'⟩
    rw [← notices]
    exact run_applyRule_of_ok finished run'

/-- Control: a bumpy matte material, with the type in the middle of its parameters. -/
theorem materials_upgrade_alike_matte :
    let color : Param Float := ⟨"spectrum", "Kd", .unknown, [], ["rust"], [], false, none⟩
    let type : Param Float := ⟨"string", "type", .unknown, [], ["matte"], [], false, none⟩
    let bump : Param Float := ⟨"texture", "bumpmap", .unknown, [], ["waves"], [], false, none⟩
    let o : OpenScopes Float := .none
    let plain := (interpret true (.material "matte" [color, bump]) .unknown).run o
    let named := (interpret true (.makeNamedMaterial "rock" [color, type, bump]) .unknown).run o
    plain.result = .ok () ∧ ∃ (ms : List (Message Float)) (present : String)
      (further : List String) (ns ns' : List (WriteNotice Float)),
      plain = ⟨.ok (), o, ms.map .message ++ ns⟩ ∧
      Prints ns (Page.text ⟨"Material " ++ quoted present, further⟩ o.depth) ∧
      named = ⟨.ok (), o, ms.map .message ++ ns'⟩ ∧
      Prints ns' (Page.text
        ⟨"MakeNamedMaterial " ++ quoted "rock", typeLine present :: further⟩ o.depth) := by
  intro color type bump o plain named
  obtain ⟨u, upgraded⟩ :
      ∃ u, ((Upgrade.material "matte" .unknown).run (dictionary [color, bump])).result = .ok u :=
    (Upgrade.faults_material.finishes_iff rfl).2 (materialFault?_of_not_refracts (by decide))
  have finished : plain.result = .ok () := by
    obtain ⟨ns, run, -⟩ := prints_entity ("Material" ++ " " ++ quoted u.name) u.definitions
      ((Upgrade.material "matte" .unknown).run (dictionary [color, bump])).state o
    have ran : plain = _ := run_applyRule_of_ok upgraded run
    rw [ran]
  refine ⟨finished, ?_⟩
  obtain ⟨ms, ⟨e, refused, -⟩ | printed⟩ := materials_upgrade_alike [color] [bump] type "matte" "rock"
    .unknown o rfl rfl (by simp [hasType, color, bump])
  · have refused : plain.result = .error e := congrArg Outcome.result refused
    rw [finished] at refused
    cases refused
  · exact ⟨ms, printed⟩

end SceneScript.Writer
