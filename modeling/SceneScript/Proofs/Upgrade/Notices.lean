import SceneScript.Proofs.Upgrade.Answers

/-!
# The messages of a rule

`Rule.Tells` says what holds of the value of a rule, of the contents it leaves and of its messages, if
it finishes. Most parts of the rules give no message, whatever the dictionary (`Rule.Silent`); for
these it is enough to know what they leave.
-/

set_option autoImplicit false

namespace SceneScript

/-- The text of the last parameter of a name, whatever its type. -/
def Contents.definition {α : Type} [Scalar α] (name : String) (c : Contents α) : String :=
  ((c.find? (·.name == name)).map Param.text).getD ""

theorem Dictionary.definition_eq {α : Type} [Scalar α] (name : String) (d : Dictionary α) :
    d.definition name = d.contents.definition name := by
  have last (es : List (DictEntry α)) :
      (es.reverse.find? (·.param.name == name)).map (·.param) =
        (es.map (·.param)).reverse.find? (·.name == name) := by
    rw [← List.map_reverse, List.find?_map]
    rfl
  rw [definition, named?, Contents.definition, Contents.find?, contents, ← last, ← last]

theorem Contents.SameOn.definition {α : Type} [Scalar α] {name : String} {c c' : Contents α}
    (same : SameOn name c c') : c'.definition name = c.definition name := by
  rw [Contents.definition, Contents.definition, same]
  exact fun p => beq_iff_eq.1

namespace Rule

variable {α β γ : Type}

/-- If the rule finishes on a dictionary with these contents, its value, the contents it leaves and
its messages are as `post` says. -/
def Tells (rule : Rule α β) (c : Contents α)
    (post : β → Contents α → List (Message α) → Prop) : Prop :=
  ∀ d : Dictionary α, d.contents = c → ∀ b, (rule.run d).result = .ok b →
    post b (rule.run d).state.contents (rule.run d).notices

/-- The rule never gives a message. -/
def Silent (rule : Rule α β) : Prop :=
  ∀ d : Dictionary α, (rule.run d).notices = []

namespace Silent

variable {rule : Rule α β} {next : β → Rule α γ}

theorem pure {b : β} : Silent (Pure.pure b : Rule α β) := fun _ => rfl

theorem bind (first : rule.Silent) (second : ∀ b, (next b).Silent) : (rule >>= next).Silent := by
  intro d
  cases finished : (rule.run d).result with
  | error e =>
    rw [Action.run_bind_of_error next finished]
    exact first d
  | ok b =>
    rw [Action.run_bind_of_ok next finished]
    exact List.append_eq_nil_iff.2 ⟨first d, second b _⟩

theorem look {question : Dictionary α → β × Dictionary α} : (Rule.look question).Silent :=
  fun _ => rfl

theorem edit {change : Dictionary α → Dictionary α} : (Rule.edit change).Silent :=
  fun _ => rfl

theorem refuse {place : Location α} {fault : UpgradeFault} :
    (Rule.refuse place fault : Rule α β).Silent :=
  fun _ => rfl

theorem forEach {ι : Type} {act : ι → Rule α Unit} {items : List ι}
    (each : ∀ i, (act i).Silent) : Silent (Action.forEach act items) := by
  induction items with
  | nil => exact .pure
  | cons i rest ih => exact .bind (each i) fun _ => ih

end Silent

namespace Tells

variable {rule : Rule α β} {next : β → Rule α γ} {c : Contents α} {b : β}
  {mid more : β → Contents α → List (Message α) → Prop}
  {post : γ → Contents α → List (Message α) → Prop}

theorem mono (tells : rule.Tells c mid) (weaker : ∀ b c' ms, mid b c' ms → more b c' ms) :
    rule.Tells c more :=
  fun d hd b finished => weaker b _ _ (tells d hd b finished)

/-- A rule that leaves something and gives no message. -/
theorem of_silent {left : β → Contents α → Prop} (leaves : rule.Leaves c left)
    (silent : rule.Silent) : rule.Tells c fun b c' ms => left b c' ∧ ms = [] :=
  fun d hd b finished => ⟨leaves d hd b finished, silent d⟩

/-- What holds of what a rule leaves, whatever its messages are. -/
theorem of_leaves {left : β → Contents α → Prop} (leaves : rule.Leaves c left) :
    rule.Tells c fun b c' _ => left b c' :=
  fun d hd b finished => leaves d hd b finished

/-- What holds of what a rule leaves, if its messages are forgotten. -/
theorem leaves {left : β → Contents α → Prop} (tells : rule.Tells c mid)
    (weaker : ∀ b c' ms, mid b c' ms → left b c') : rule.Leaves c left :=
  fun d hd b finished => weaker b _ _ (tells d hd b finished)

theorem pure (holds : mid b c []) : (Pure.pure b : Rule α β).Tells c mid := by
  rintro d rfl b' finished
  obtain rfl : b = b' := Except.ok.inj finished
  exact holds

theorem bind (first : rule.Tells c mid)
    (second : ∀ b c' ms, mid b c' ms → (next b).Tells c' fun v c'' ns => post v c'' (ms ++ ns)) :
    (rule >>= next).Tells c post := by
  intro d hd v finished
  cases h : (rule.run d).result with
  | error e =>
    rw [Action.result_bind_of_error next h] at finished
    exact nomatch finished
  | ok b =>
    rw [Action.run_bind_of_ok next h] at finished ⊢
    exact second b _ _ (first d hd b h) _ rfl v finished

/-- A rule that gives no message, before the rest of a rule. -/
theorem bind_silent {left : β → Contents α → Prop} (first : rule.Leaves c left)
    (silent : rule.Silent) (second : ∀ b c', left b c' → (next b).Tells c' post) :
    (rule >>= next).Tells c post :=
  (of_silent first silent).bind fun b c' _ ⟨holds, nothing⟩ => nothing ▸ second b c' holds

/-- A message, and what comes after it. -/
theorem report {severity : Severity} {place : Location α} {text : String} {next : Unit → Rule α γ}
    (rest : (next ()).Tells c fun v c' ms => post v c' (⟨severity, text, some place⟩ :: ms)) :
    (Rule.report severity place text >>= next).Tells c post :=
  fun d hd v finished => rest d hd v finished

/-- Looking at the whole dictionary. -/
theorem get {next : Dictionary α → Rule α γ}
    (rest : ∀ d : Dictionary α, d.contents = c → (next d).Tells c post) :
    Rule.Tells ((Action.get : Rule α (Dictionary α)) >>= next) c post :=
  fun d hd v finished => rest d hd d hd v finished

/-- A question about one typed parameter. -/
theorem ask {type name : String} {read : Option (Param α) → β}
    (rest : (next (read (c.find? (Dictionary.hasType type name)))).Tells c post) :
    (Rule.look (Dictionary.ask type name read) >>= next).Tells c post := by
  rintro d rfl v finished
  rw [← Dictionary.fst_ask d type name read] at rest
  exact rest _ (Dictionary.contents_ask d type name read) v finished

/-- The question whether a name is bound to a color. -/
theorem hasColor {name : String} {next : Bool → Rule α γ}
    (rest : (next (c.find? (Dictionary.isColor name)).isSome).Tells c post) :
    (Rule.look (Dictionary.hasColor name) >>= next).Tells c post := by
  rintro d rfl v finished
  rw [← Dictionary.fst_lookup] at rest
  exact rest _ (Dictionary.contents_lookup d _) v finished

end Tells

end Rule

end SceneScript
