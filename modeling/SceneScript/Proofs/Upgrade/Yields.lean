import SceneScript.Proofs.Upgrade.Answers

/-!
# Rules that are sure to finish

`Rule.Leaves` says what holds if a rule finishes. `Rule.Yields` says that it does finish from every
dictionary with the given contents, and with which value and which contents; `Rule.Refuses` says that
it refuses, and why. The marks of the dictionary have no part in either. There is a lemma for each
way of making rules.

A rule that yields no definition and the contents it was given has nothing to do there.

Many rules cannot fail at all (`Rule.Finishes`). Of the others, `Rule.Faults` says for which reason they
refuse dictionaries with the given contents, if they do, and `Rule.Resolves` says what they yield
otherwise.
-/

set_option autoImplicit false

namespace SceneScript

namespace Rule

variable {α β γ : Type}

/-- From these contents the rule finishes with a value, and leaves contents. -/
def Yields (rule : Rule α β) (c : Contents α) (b : β) (c' : Contents α) : Prop :=
  ∀ d : Dictionary α, d.contents = c →
    (rule.run d).result = .ok b ∧ (rule.run d).state.contents = c'

/-- From these contents the rule refuses the directive. -/
def Refuses (rule : Rule α β) (c : Contents α) (fault : UpgradeFault) : Prop :=
  ∀ d : Dictionary α, d.contents = c → ∃ place, (rule.run d).result = .error ⟨place, fault⟩

namespace Yields

variable {rule : Rule α β} {next : β → Rule α γ} {c c' c'' : Contents α} {b : β} {v : γ}

theorem pure : (Pure.pure b : Rule α β).Yields c b c := fun _ hd => ⟨rfl, hd⟩

theorem bind (first : rule.Yields c b c') (second : (next b).Yields c' v c'') :
    (rule >>= next).Yields c v c'' := by
  intro d hd
  obtain ⟨finished, left⟩ := first d hd
  rw [Action.run_bind_of_ok next finished]
  exact second _ left

theorem map {f : β → γ} (yields : rule.Yields c b c') : Rule.Yields (f <$> rule) c (f b) c' := by
  rw [map_eq_pure_bind]
  exact yields.bind .pure

theorem report {severity : Severity} {place : Location α} {text : String} :
    (Rule.report severity place text).Yields c () c :=
  fun _ hd => ⟨rfl, hd⟩

/-- What comes after a look at the whole dictionary. -/
theorem get {next : Dictionary α → Rule α γ}
    (rest : ∀ d : Dictionary α, d.contents = c → (next d).Yields c v c') :
    Rule.Yields ((Action.get : Rule α (Dictionary α)) >>= next) c v c' :=
  fun d hd => rest d hd d hd

/-- A question about one typed parameter. -/
theorem ask {type name : String} {read : Option (Param α) → β}
    (answer : read (c.find? (Dictionary.hasType type name)) = b) :
    (look (Dictionary.ask type name read)).Yields c b c := by
  rintro d rfl
  rw [← answer, ← Dictionary.fst_ask d type name read]
  exact ⟨rfl, Dictionary.contents_ask d type name read⟩

/-- The question whether a name is bound to a color. -/
theorem hasColor {name : String} {b : Bool}
    (answer : (c.find? (Dictionary.isColor name)).isSome = b) :
    (look (Dictionary.hasColor name)).Yields c b c := by
  rintro d rfl
  rw [← answer, ← Dictionary.fst_lookup]
  exact ⟨rfl, Dictionary.contents_lookup d _⟩

variable {type name after : String}

theorem remove : (Rule.remove type name).Yields c ()
    (c.removeWhere (Dictionary.hasType type name)) := by
  rintro d rfl
  exact ⟨rfl, Dictionary.contents_removeWhere d _⟩

theorem removeColor : (Rule.removeColor name).Yields c ()
    (c.removeWhere (Dictionary.isColor name)) := by
  rintro d rfl
  exact ⟨rfl, Dictionary.contents_removeWhere d _⟩

/-- There is nothing to take out. -/
theorem remove_of_lacks (lacks : c.Lacks type name) : (Rule.remove type name).Yields c () c := by
  have none := c.removeWhere_of_none (Contents.find?_eq_none_iff.1 lacks)
  simpa only [none] using (remove : (Rule.remove type name).Yields c () _)

/-- There is no color to take out. -/
theorem removeColor_of_colorless (colorless : c.Colorless name) :
    (Rule.removeColor name).Yields c () c := by
  have none := c.removeWhere_of_none colorless
  simpa only [none] using (removeColor : (Rule.removeColor name).Yields c () _)

/-- There is nothing to rename. -/
theorem rename_of_none (none : ∀ p ∈ c.params, p.name ≠ name) :
    (Rule.rename name after).Yields c () c := by
  rintro d rfl
  refine ⟨rfl, (Dictionary.contents_rename d name after).trans ?_⟩
  have all (ps : List (Param α)) (sub : ∀ p ∈ ps, p ∈ d.contents.params) :
      ps.map (Param.renamed name after) = ps := by
    refine (List.map_congr_left fun p hp => ?_).trans (List.map_id ps)
    rw [Param.renamed, beq_false_of_ne (none p (sub p hp))]
    rfl
  rw [Contents.rename, all _ fun p => List.mem_append_left _, all _ fun p => List.mem_append_right _]

/-- What a rule yields is what it leaves if it finishes. -/
theorem leaves {post : β → Contents α → Prop} (yields : rule.Yields c b c') (holds : post b c') :
    rule.Leaves c post := by
  intro d hd v finished
  obtain ⟨value, left⟩ := yields d hd
  obtain rfl : b = v := Except.ok.inj (value.symm.trans finished)
  exact left ▸ holds

end Yields

namespace Refuses

variable {rule : Rule α β} {next : β → Rule α γ} {c c' : Contents α} {b : β}
  {fault : UpgradeFault}

theorem bind (first : rule.Refuses c fault) : (rule >>= next).Refuses c fault := by
  intro d hd
  obtain ⟨place, refused⟩ := first d hd
  exact ⟨place, Action.result_bind_of_error next refused⟩

theorem after (first : rule.Yields c b c') (second : (next b).Refuses c' fault) :
    (rule >>= next).Refuses c fault := by
  intro d hd
  obtain ⟨finished, left⟩ := first d hd
  rw [Action.run_bind_of_ok next finished]
  exact second _ left

/-- If a rule refuses, nothing has to be shown of what it leaves. -/
theorem leaves {post : β → Contents α → Prop} (refuses : rule.Refuses c fault) :
    rule.Leaves c post := by
  intro d hd b finished
  obtain ⟨place, refused⟩ := refuses d hd
  rw [refused] at finished
  exact nomatch finished

end Refuses

/-- The rule does not fail, whatever the dictionary. -/
def Finishes (rule : Rule α β) : Prop :=
  ∀ d : Dictionary α, ∃ b, (rule.run d).result = .ok b

namespace Finishes

variable {rule : Rule α β} {next : β → Rule α γ}

theorem pure {b : β} : Finishes (Pure.pure b : Rule α β) := fun _ => ⟨b, rfl⟩

theorem look {question : Dictionary α → β × Dictionary α} : (Rule.look question).Finishes :=
  fun _ => ⟨_, rfl⟩

theorem edit {change : Dictionary α → Dictionary α} : (Rule.edit change).Finishes :=
  fun _ => ⟨(), rfl⟩

theorem report {severity : Severity} {place : Location α} {text : String} :
    (Rule.report severity place text).Finishes :=
  fun _ => ⟨(), rfl⟩

theorem bind (first : rule.Finishes) (second : ∀ b, (next b).Finishes) :
    (rule >>= next).Finishes := by
  intro d
  obtain ⟨b, finished⟩ := first d
  rw [Action.run_bind_of_ok next finished]
  exact second b _

theorem get_bind {next : Dictionary α → Rule α γ} (rest : ∀ d, (next d).Finishes) :
    Rule.Finishes ((Action.get : Rule α (Dictionary α)) >>= next) :=
  fun d => rest d d

theorem forEach {ι : Type} {act : ι → Rule α Unit} {items : List ι}
    (each : ∀ i, (act i).Finishes) : Finishes (Action.forEach act items) := by
  induction items with
  | nil => exact .pure
  | cons i rest ih => exact .bind (each i) fun _ => ih

end Finishes

/-- From these contents the rule refuses the directive for the given reason, or finishes if none is
given. -/
def Faults (rule : Rule α β) (c : Contents α) (fault? : Option UpgradeFault) : Prop :=
  ∀ d : Dictionary α, d.contents = c → ∀ fault,
    (∃ place, (rule.run d).result = .error ⟨place, fault⟩) ↔ fault? = some fault

namespace Faults

variable {rule : Rule α β} {next : β → Rule α γ} {c c' : Contents α} {b : β}
  {fault : UpgradeFault} {fault? : Option UpgradeFault}

/-- A rule finishes exactly if there is no reason to refuse. -/
theorem finishes_iff (faults : rule.Faults c fault?) {d : Dictionary α} (hd : d.contents = c) :
    (∃ b, (rule.run d).result = .ok b) ↔ fault? = none := by
  rw [Option.eq_none_iff_forall_ne_some]
  simp only [ne_eq, ← faults d hd]
  cases (rule.run d).result with
  | error e => exact iff_of_false nofun fun none => none e.cause ⟨e.loc, rfl⟩
  | ok b => exact iff_of_true ⟨b, rfl⟩ nofun

theorem of_finishes (finishes : rule.Finishes) : rule.Faults c none := by
  intro d _ fault
  obtain ⟨b, finished⟩ := finishes d
  simp [finished]

theorem of_refuses (refuses : rule.Refuses c fault) : rule.Faults c (some fault) := by
  intro d hd other
  obtain ⟨place, refused⟩ := refuses d hd
  simp [refused]

/-- A rule that cannot fail, and what comes after it. -/
theorem after {mid : β → Contents α → Prop} (first : rule.Finishes) (left : rule.Leaves c mid)
    (second : ∀ b c', mid b c' → (next b).Faults c' fault?) : (rule >>= next).Faults c fault? := by
  intro d hd fault
  obtain ⟨b, finished⟩ := first d
  rw [Action.run_bind_of_ok next finished]
  exact second b _ (left d hd b finished) _ rfl fault

/-- A rule that finishes from these contents, and what comes after it. -/
theorem after_yields (first : rule.Yields c b c') (second : (next b).Faults c' fault?) :
    (rule >>= next).Faults c fault? := by
  intro d hd fault
  obtain ⟨finished, left⟩ := first d hd
  rw [Action.run_bind_of_ok next finished]
  exact second _ left fault

/-- What comes after a rule and cannot fail. -/
theorem andThen (first : rule.Faults c fault?) (second : ∀ b, (next b).Finishes) :
    (rule >>= next).Faults c fault? := by
  intro d hd fault
  rw [← first d hd fault]
  cases finished : (rule.run d).result with
  | error e => simp [Action.result_bind_of_error next finished]
  | ok b =>
    rw [Action.run_bind_of_ok next finished]
    obtain ⟨v, done⟩ := second b (rule.run d).state
    simp [done]

end Faults

/-- From these contents the rule refuses the directive for the given reason, or else it finishes with a
value and leaves contents. -/
structure Resolves (rule : Rule α β) (c : Contents α) (fault? : Option UpgradeFault) (b : β)
    (c' : Contents α) : Prop where
  refuses : ∀ {fault}, fault? = some fault → rule.Refuses c fault
  yields : fault? = none → rule.Yields c b c'

namespace Resolves

variable {rule : Rule α β} {next : β → Rule α γ} {c c' c'' : Contents α} {b : β} {v : γ}
  {fault : UpgradeFault} {fault? : Option UpgradeFault}

theorem of_refuses (refuses : rule.Refuses c fault) : rule.Resolves c (some fault) b c' :=
  ⟨fun same => Option.some.inj same ▸ refuses, nofun⟩

theorem of_yields (yields : rule.Yields c b c') : rule.Resolves c none b c' :=
  ⟨nofun, fun _ => yields⟩

/-- A rule that finishes from these contents, and what comes after it. -/
theorem after (first : rule.Yields c b c') (second : (next b).Resolves c' fault? v c'') :
    (rule >>= next).Resolves c fault? v c'' :=
  ⟨fun foreseen => .after first (second.refuses foreseen),
    fun foreseen => first.bind (second.yields foreseen)⟩

/-- If the rule finishes, it leaves what it yields. -/
theorem leaves {post : β → Contents α → Prop} (resolves : rule.Resolves c fault? b c')
    (holds : post b c') : rule.Leaves c post := by
  cases foreseen : fault? with
  | some fault => exact (resolves.refuses foreseen).leaves
  | none => exact (resolves.yields foreseen).leaves holds

/-- What comes after it decides only if it does not refuse itself. -/
theorem bind_faults {rest? : Option UpgradeFault} (first : rule.Resolves c fault? b c')
    (rest : (next b).Faults c' rest?) : (rule >>= next).Faults c (fault?.or rest?) := by
  cases foreseen : fault? with
  | some fault =>
    rw [Option.some_or]
    exact .of_refuses (first.refuses foreseen).bind
  | none =>
    rw [Option.none_or]
    exact .after_yields (first.yields foreseen) rest

end Resolves

/-- There is nothing to say of what a rule leaves. -/
theorem Leaves.any {rule : Rule α β} {c : Contents α} : rule.Leaves c fun _ _ => True :=
  fun _ _ _ _ => trivial

theorem Leaves.and {rule : Rule α β} {c : Contents α} {post post' : β → Contents α → Prop}
    (first : rule.Leaves c post) (second : rule.Leaves c post') :
    rule.Leaves c fun b c' => post b c' ∧ post' b c' :=
  fun d hd b finished => ⟨first d hd b finished, second d hd b finished⟩

end Rule

end SceneScript
