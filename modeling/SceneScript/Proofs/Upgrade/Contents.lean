import SceneScript.Proofs.Action
import SceneScript.Upgrade.Rule

/-!
# What a rule leaves in a dictionary

The marks of a dictionary say which entries a lookup has returned; no answer and no edit depends on
them. `Dictionary.contents` is a dictionary without its marks, and every question and every edit has
one equation in terms of it.

`Rule.Leaves` says of a rule what holds of its value and of the contents it leaves, if it finishes.
There is a lemma for each way of making rules, so that the proof follows the text of the rule.
-/

set_option autoImplicit false

namespace SceneScript

/-- The parameter under a new name, if it has the old one. -/
def Param.renamed {α : Type} (before after : String) (p : Param α) : Param α :=
  if p.name == before then { p with name := after } else p

/-- The parameters of a dictionary. -/
structure Contents (α : Type) where
  colorSpace : ColorSpace
  own : List (Param α)
  inherited : List (Param α)

namespace Contents

variable {α : Type}

/-- All parameters, the own ones first. -/
def params (c : Contents α) : List (Param α) :=
  c.own ++ c.inherited

/-- The parameter that answers a question: the last own one that `wanted` accepts, or else the last
inherited one. -/
def find? (wanted : Param α → Bool) (c : Contents α) : Option (Param α) :=
  (c.own.reverse.find? wanted).or (c.inherited.reverse.find? wanted)

/-- The contents without the parameters that `dropped` accepts. -/
def removeWhere (dropped : Param α → Bool) (c : Contents α) : Contents α where
  colorSpace := c.colorSpace
  own := c.own.filter (fun p => !dropped p)
  inherited := c.inherited.filter (fun p => !dropped p)

/-- The contents with the parameters of one name renamed. -/
def rename (before after : String) (c : Contents α) : Contents α where
  colorSpace := c.colorSpace
  own := c.own.map (Param.renamed before after)
  inherited := c.inherited.map (Param.renamed before after)

variable {c : Contents α} {wanted dropped : Param α → Bool}

theorem find?_eq_none_iff : c.find? wanted = none ↔ ∀ p ∈ c.params, wanted p = false := by
  simp only [find?, params, Option.or_eq_none_iff, List.find?_eq_none, List.mem_reverse,
    List.mem_append, Bool.not_eq_true, or_imp, forall_and]

/-- After a removal, a question is answered by what is left. -/
theorem find?_removeWhere :
    (c.removeWhere dropped).find? wanted = c.find? (fun p => !dropped p && wanted p) := by
  simp only [find?, removeWhere, ← List.filter_reverse, List.find?_filter, Bool.decide_and,
    Bool.decide_eq_true]

/-- A removal does not change the answer to a question about other parameters. -/
theorem find?_removeWhere_of_disjoint (disjoint : ∀ p, wanted p = true → dropped p = false) :
    (c.removeWhere dropped).find? wanted = c.find? wanted := by
  rw [find?_removeWhere]
  congr 1
  funext p
  cases asked : wanted p with
  | false => rw [Bool.and_false]
  | true => rw [disjoint p asked, Bool.not_false, Bool.and_self]

theorem mem_params_removeWhere {p : Param α} :
    p ∈ (c.removeWhere dropped).params ↔ p ∈ c.params ∧ dropped p = false := by
  simp only [params, removeWhere, List.mem_append, List.mem_filter, Bool.not_eq_true', or_and_right]

theorem removeWhere_of_none (none : ∀ p ∈ c.params, dropped p = false) :
    c.removeWhere dropped = c := by
  have all (ps : List (Param α)) (sub : ∀ p ∈ ps, p ∈ c.params) :
      ps.filter (fun p => !dropped p) = ps := by
    apply List.filter_eq_self.2
    intro p hp
    rw [none p (sub p hp), Bool.not_false]
  rcases c with ⟨colorSpace, own, inherited⟩
  rw [removeWhere, all own fun p => List.mem_append_left _,
    all inherited fun p => List.mem_append_right _]

end Contents

namespace Dictionary

variable {α : Type}

/-- The dictionary without its marks. -/
def contents (d : Dictionary α) : Contents α where
  colorSpace := d.colorSpace
  own := d.own.map (·.param)
  inherited := d.inherited.map (·.param)

section Names

variable {type name : String} {p : Param α}

theorem name_of_hasType (has : hasType type name p = true) : p.name = name := by
  simp only [hasType, Bool.and_eq_true, beq_iff_eq] at has
  exact has.1

theorem name_of_isColor (color : isColor name p = true) : p.name = name := by
  simp only [isColor, Bool.and_eq_true, beq_iff_eq] at color
  exact color.1

theorem hasType_of_name_ne (ne : p.name ≠ name) : hasType type name p = false :=
  Bool.eq_false_iff.2 fun has => ne (name_of_hasType has)

theorem isColor_of_name_ne (ne : p.name ≠ name) : isColor name p = false :=
  Bool.eq_false_iff.2 fun color => ne (name_of_isColor color)

/-- A parameter of a color type is a color. -/
theorem isColor_of_hasType (color : type ∈ colorTypes) (has : hasType type name p = true) :
    isColor name p = true := by
  simp only [hasType, Bool.and_eq_true, beq_iff_eq] at has
  simp [isColor, isColorType, has.1, has.2, color]

end Names

variable (d : Dictionary α)

@[simp] theorem params_contents : d.contents.params = d.params := by
  simp only [Contents.params, contents, params, entries, List.map_append]

@[simp] theorem contents_ofParams (own : List (Param α)) (colorSpace : ColorSpace)
    (inherited : List (Param α)) :
    (ofParams own colorSpace inherited).contents = ⟨colorSpace, own, inherited⟩ := by
  simp [contents, ofParams, Function.comp_def]

/-- A question is answered by the contents alone. -/
@[simp] theorem fst_lookup (wanted : Param α → Bool) :
    (d.lookup wanted).1 = d.contents.find? wanted := by
  simp only [Contents.find?, contents, ← map_fst_markLast, lookup]
  cases markLast wanted d.own with
  | some found => rfl
  | none => cases markLast wanted d.inherited <;> rfl

/-- A question leaves the contents alone. -/
@[simp] theorem contents_lookup (wanted : Param α → Bool) :
    (d.lookup wanted).2.contents = d.contents := by
  rw [lookup]
  cases own : markLast wanted d.own with
  | some found => simp only [contents, map_param_of_markLast own]
  | none =>
    cases inherited : markLast wanted d.inherited with
    | some found => simp only [contents, map_param_of_markLast inherited]
    | none => rfl

@[simp] theorem contents_removeWhere (dropped : Param α → Bool) :
    (d.removeWhere dropped).contents = d.contents.removeWhere dropped := by
  simp only [contents, removeWhere, Contents.removeWhere, List.filter_map, Function.comp_def]

theorem params_removeWhere (dropped : Param α → Bool) :
    (d.removeWhere dropped).params = d.params.filter (fun p => !dropped p) := by
  simp only [params, entries, removeWhere, List.map_append, List.filter_append, List.filter_map,
    Function.comp_def]

@[simp] theorem contents_rename (before after : String) :
    (d.rename before after).contents = d.contents.rename before after := by
  have one (e : DictEntry α) :
      (renameEntry before after e).param = Param.renamed before after e.param := by
    rw [renameEntry, Param.renamed]
    split <;> rfl
  simp only [contents, rename, Contents.rename, List.map_map, Function.comp_def, one]

@[simp] theorem fst_ask {β : Type} (type name : String) (read : Option (Param α) → β) :
    (ask type name read d).1 = read (d.contents.find? (hasType type name)) := by
  rw [← fst_lookup]
  rfl

@[simp] theorem contents_ask {β : Type} (type name : String) (read : Option (Param α) → β) :
    (ask type name read d).2.contents = d.contents :=
  contents_lookup d _

end Dictionary

/-! ## Rules that finish -/

namespace Rule

variable {α β γ : Type}

/-- If the rule finishes on a dictionary with these contents, its value and the contents it leaves
are as `post` says. -/
def Leaves (rule : Rule α β) (c : Contents α) (post : β → Contents α → Prop) : Prop :=
  ∀ d : Dictionary α, d.contents = c →
    ∀ b, (rule.run d).result = .ok b → post b (rule.run d).state.contents

namespace Leaves

variable {rule : Rule α β} {next : β → Rule α γ} {c : Contents α}
  {post : γ → Contents α → Prop} {mid mid' : β → Contents α → Prop}

theorem mono (leaves : rule.Leaves c mid) (weaker : ∀ b c', mid b c' → mid' b c') :
    rule.Leaves c mid' :=
  fun d hd b finished => weaker b _ (leaves d hd b finished)

theorem pure {b : β} (holds : mid b c) : (Pure.pure b : Rule α β).Leaves c mid := by
  rintro d rfl b' finished
  obtain rfl : b = b' := Except.ok.inj finished
  exact holds

theorem bind (first : rule.Leaves c mid)
    (second : ∀ b c', mid b c' → (next b).Leaves c' post) : (rule >>= next).Leaves c post := by
  intro d hd v finished
  cases h : (rule.run d).result with
  | error e =>
    rw [Action.result_bind_of_error next h] at finished
    exact nomatch finished
  | ok b =>
    rw [Action.run_bind_of_ok next h] at finished ⊢
    exact second b _ (first d hd b h) _ rfl v finished

/-- A rule whose value is put in other terms. -/
theorem map {f : β → γ} (leaves : rule.Leaves c fun b => post (f b)) :
    Rule.Leaves (f <$> rule) c post := by
  rw [map_eq_pure_bind]
  exact leaves.bind fun _ _ => .pure

/-- A rule that finishes with a value and changes nothing, and what comes after it. -/
theorem pure_bind {b : β} (rest : (next b).Leaves c post) :
    Rule.Leaves ((Pure.pure b : Rule α β) >>= next) c post :=
  fun d hd v finished => rest d hd v finished

theorem refuse (place : Location α) (fault : UpgradeFault) :
    (Rule.refuse place fault : Rule α β).Leaves c mid := by
  intro d _ b finished
  exact nomatch finished

theorem report {severity : Severity} {place : Location α} {text : String}
    {next : Unit → Rule α γ} (rest : (next ()).Leaves c post) :
    (Rule.report severity place text >>= next).Leaves c post :=
  fun d hd v finished => rest d hd v finished

/-- Looking at the whole dictionary. -/
theorem get {next : Dictionary α → Rule α γ}
    (rest : ∀ d : Dictionary α, d.contents = c → (next d).Leaves c post) :
    Rule.Leaves ((Action.get : Rule α (Dictionary α)) >>= next) c post :=
  fun d hd v finished => rest d hd d hd v finished

/-- A question about one typed parameter. -/
theorem ask {type name : String} {read : Option (Param α) → β}
    (rest : (next (read (c.find? (Dictionary.hasType type name)))).Leaves c post) :
    (Rule.look (Dictionary.ask type name read) >>= next).Leaves c post := by
  rintro d rfl v finished
  have answer := Dictionary.fst_ask d type name read
  rw [← answer] at rest
  exact rest _ (Dictionary.contents_ask d type name read) v finished

/-- The question whether a name is bound to a color. -/
theorem hasColor {name : String} {next : Bool → Rule α γ}
    (rest : (next (c.find? (Dictionary.isColor name)).isSome).Leaves c post) :
    (Rule.look (Dictionary.hasColor name) >>= next).Leaves c post := by
  rintro d rfl v finished
  rw [← Dictionary.fst_lookup] at rest
  exact rest _ (Dictionary.contents_lookup d _) v finished

theorem edit {change : Dictionary α → Dictionary α} {changed : Contents α}
    {post : Unit → Contents α → Prop}
    (same : ∀ d : Dictionary α, d.contents = c → (change d).contents = changed)
    (holds : post () changed) : (Rule.edit change).Leaves c post := by
  intro d hd b _
  have left : ((Rule.edit change).run d).state.contents = changed := same d hd
  rw [left]
  exact holds

/-- An edit, and what comes after it. -/
theorem edit_bind {change : Dictionary α → Dictionary α} {changed : Contents α}
    {next : Unit → Rule α γ}
    (same : ∀ d : Dictionary α, d.contents = c → (change d).contents = changed)
    (rest : (next ()).Leaves changed post) : (Rule.edit change >>= next).Leaves c post := by
  have edited : (Rule.edit change).Leaves c fun _ c' => c' = changed := edit same rfl
  refine edited.bind ?_
  rintro _ _ rfl
  exact rest

variable {type name after : String}

/-- Taking out all there is under a type and a name, and what comes after it. -/
theorem remove_bind {next : Unit → Rule α γ}
    (rest : (next ()).Leaves (c.removeWhere (Dictionary.hasType type name)) post) :
    (Rule.remove type name >>= next).Leaves c post :=
  edit_bind (fun d hd => hd ▸ Dictionary.contents_removeWhere d _) rest

/-- Taking out all colors of a name, and what comes after it. -/
theorem removeColor_bind {next : Unit → Rule α γ}
    (rest : (next ()).Leaves (c.removeWhere (Dictionary.isColor name)) post) :
    (Rule.removeColor name >>= next).Leaves c post :=
  edit_bind (fun d hd => hd ▸ Dictionary.contents_removeWhere d _) rest

variable {post : Unit → Contents α → Prop}

theorem remove (holds : post () (c.removeWhere (Dictionary.hasType type name))) :
    (Rule.remove type name).Leaves c post :=
  edit (fun d hd => hd ▸ Dictionary.contents_removeWhere d _) holds

theorem removeColor (holds : post () (c.removeWhere (Dictionary.isColor name))) :
    (Rule.removeColor name).Leaves c post :=
  edit (fun d hd => hd ▸ Dictionary.contents_removeWhere d _) holds

theorem rename (holds : post () (c.rename name after)) : (Rule.rename name after).Leaves c post :=
  edit (fun d hd => hd ▸ Dictionary.contents_rename d name after) holds

end Leaves

end Rule

end SceneScript
