import SceneScript.Proofs.Action
import SceneScript.Proofs.Upgrade.Spelling
import SceneScript.Upgrade.Image
import SceneScript.Upgrade.Light
import SceneScript.Upgrade.Material
import SceneScript.Upgrade.Shape
import SceneScript.Upgrade.Texture

/-!
# What the outcome of a rule depends on

A rule is told the location of its directive, but only for its messages and its refusals. From one
dictionary it refuses at every location, or it finishes at every location with the same value and
the same dictionary (`SettlesAt`). The texts of the value and of the dictionary are spelled as those
that the rule was given.

There is a lemma for each way of making rules, and one for each rule.
-/

set_option autoImplicit false

namespace SceneScript

namespace Rule

variable {α β γ : Type} [Scalar α]

/-- What a rule comes to from a dictionary, whatever the location. -/
inductive SettlesAt (A : Alphabet α) (gives : β → Prop) (rule : Location α → Rule α β)
    (d : Dictionary α) : Prop
  | refuses : (∀ loc, ∃ e, ((rule loc).run d).result = .error e) → SettlesAt A gives rule d
  | finishes (b : β) (d' : Dictionary α) : gives b → d'.Spelled A →
      (∀ loc, ((rule loc).run d).result = .ok b ∧ ((rule loc).run d).state = d') →
      SettlesAt A gives rule d

/-- A rule that settles from every dictionary in the alphabet. -/
def Settles (A : Alphabet α) (gives : β → Prop) (rule : Location α → Rule α β) : Prop :=
  ∀ d : Dictionary α, d.Spelled A → SettlesAt A gives rule d

namespace Settles

variable {A : Alphabet α} {gives : β → Prop} {gives' : γ → Prop}

/-! ## Ways of making rules -/

theorem pure {b : β} (value : gives b) : Settles A gives (fun _ => Pure.pure b) :=
  fun d hd => .finishes b d value hd fun _ => ⟨rfl, rfl⟩

/-- A value that has no text. -/
theorem value (b : β) : Settles A (fun _ => True) (fun _ => Pure.pure b) :=
  pure trivial

theorem bind {rule : Location α → Rule α β} {next : Location α → β → Rule α γ}
    (first : Settles A gives rule)
    (second : ∀ b, gives b → Settles A gives' (fun loc => next loc b)) :
    Settles A gives' (fun loc => rule loc >>= next loc) := by
  intro d hd
  cases first d hd with
  | refuses h =>
    refine .refuses fun loc => ?_
    obtain ⟨e, he⟩ := h loc
    exact ⟨e, Action.result_bind_of_error (next loc) he⟩
  | finishes b d' value left h =>
    -- both rules run on, the second one from the dictionary of the first
    have run (loc : Location α) : ((rule loc >>= next loc).run d).result =
        ((next loc b).run d').result ∧
        ((rule loc >>= next loc).run d).state = ((next loc b).run d').state := by
      obtain ⟨result, state⟩ := h loc
      rw [Action.run_bind_of_ok (next loc) result, state]
      exact ⟨rfl, rfl⟩
    cases second b value d' left with
    | refuses k =>
      refine .refuses fun loc => ?_
      obtain ⟨e, he⟩ := k loc
      exact ⟨e, (run loc).1.trans he⟩
    | finishes c d'' value' left' k =>
      refine .finishes c d'' value' left' fun loc => ?_
      exact ⟨(run loc).1.trans (k loc).1, (run loc).2.trans (k loc).2⟩

/-- A choice between two rules before the rest of a rule. -/
theorem choose {c : Prop} [Decidable c] {yes no : Location α → Rule α β}
    {next : Location α → β → Rule α γ} (hyes : c → Settles A gives yes)
    (hno : ¬ c → Settles A gives no)
    (rest : ∀ b, gives b → Settles A gives' (fun loc => next loc b)) :
    Settles A gives' (fun loc => if c then yes loc >>= next loc else no loc >>= next loc) := by
  by_cases h : c
  · simpa only [h, if_true] using (hyes h).bind rest
  · simpa only [h, if_false] using (hno h).bind rest

/-- A rule that is run on a condition only, before the rest of a rule. -/
theorem optional {c : Prop} [Decidable c] {act : Location α → Rule α Unit}
    {next : Location α → Unit → Rule α γ} (hact : Settles A (fun _ => True) act)
    (rest : Settles A gives' (fun loc => next loc ())) :
    Settles A gives' (fun loc => if c then act loc >>= next loc else next loc ()) := by
  by_cases h : c
  · simpa only [h, if_true] using hact.bind fun _ _ => rest
  · simpa only [h, if_false] using rest

theorem refuse (place : Location α → Location α) (fault : UpgradeFault) :
    Settles A gives (fun loc => Rule.refuse (place loc) fault) :=
  fun _ _ => .refuses fun _ => ⟨_, rfl⟩

theorem report (severity : Severity) (text : String) :
    Settles A (fun _ => True) (fun loc => Rule.report severity loc text) :=
  fun d hd => .finishes () d trivial hd fun _ => ⟨rfl, rfl⟩

theorem get : Settles A (·.Spelled A) (fun _ => (Action.get : Rule α (Dictionary α))) :=
  fun d hd => .finishes d d hd hd fun _ => ⟨rfl, rfl⟩

theorem edit {change : Dictionary α → Dictionary α}
    (keeps : ∀ d, d.Spelled A → (change d).Spelled A) :
    Settles A (fun _ => True) (fun _ => Rule.edit change) :=
  fun d hd => .finishes () (change d) trivial (keeps d hd) fun _ => ⟨rfl, rfl⟩

theorem look {question : Dictionary α → β × Dictionary α}
    (same : ∀ d, (question d).2.params = d.params)
    (answer : ∀ d, d.Spelled A → gives (question d).1) :
    Settles A gives (fun _ => Rule.look question) := by
  intro d hd
  have keeps : (question d).2.Spelled A := by
    unfold Dictionary.Spelled
    rw [same]
    exact hd
  exact .finishes _ _ (answer d hd) keeps fun _ => ⟨rfl, rfl⟩

/-- A question whose answer has no text. -/
theorem ask (type name : String) (read : Option (Param α) → β) :
    Settles A (fun _ => True) (fun _ => Rule.look (Dictionary.ask type name read)) :=
  look (Dictionary.params_ask type name read) fun _ _ => trivial

theorem oneString (name : String) :
    Settles A A.Spells (fun _ => Rule.look (Dictionary.oneString name "")) :=
  look (Dictionary.params_ask _ _ _) fun _ hd => hd.firstString "string" name

theorem texture (name : String) :
    Settles A A.Spells (fun _ => Rule.look (Dictionary.texture name)) :=
  look (Dictionary.params_ask _ _ _) fun _ hd => hd.firstString "texture" name

theorem hasColor (name : String) :
    Settles A (fun _ => True) (fun _ => Rule.look (Dictionary.hasColor name)) :=
  look (Dictionary.params_hasColor name) fun _ _ => trivial

theorem remove (type name : String) :
    Settles A (fun _ => True) (fun _ => (Rule.remove type name : Rule α Unit)) :=
  edit fun _ hd => hd.removeWhere _

theorem removeColor (name : String) :
    Settles A (fun _ => True) (fun _ => (Rule.removeColor name : Rule α Unit)) :=
  edit fun _ hd => hd.removeWhere _

theorem rename {before after : String} (line : '\n' ∉ after.toList) :
    Settles A (fun _ => True) (fun _ => (Rule.rename before after : Rule α Unit)) :=
  edit fun _ hd => hd.rename (A.spells_of_line line)

theorem forEach {f : γ → Rule α Unit} (each : ∀ c, Settles A (fun _ => True) (fun _ => f c))
    (cs : List γ) : Settles A (fun _ => True) (fun _ => Action.forEach f cs) := by
  induction cs with
  | nil => exact pure trivial
  | cons c rest ih => exact (each c).bind fun _ _ => ih

end Settles

end Rule

/-! ## Definitions -/

/-- Parameters that are all spelled in an alphabet. -/
def Alphabet.SpellsAll {α : Type} [Scalar α] (A : Alphabet α) (ps : List (Param α)) : Prop :=
  ∀ p ∈ ps, p.Spelled A

namespace Alphabet.SpellsAll

variable {α : Type} [Scalar α] {A : Alphabet α} {ps qs : List (Param α)}

theorem nil : A.SpellsAll ([] : List (Param α)) := by simp [SpellsAll]

theorem cons {p : Param α} (hp : p.Spelled A) (hps : A.SpellsAll ps) : A.SpellsAll (p :: ps) := by
  intro q hq
  rcases List.mem_cons.1 hq with rfl | mem
  · exact hp
  · exact hps q mem

theorem append (hps : A.SpellsAll ps) (hqs : A.SpellsAll qs) : A.SpellsAll (ps ++ qs) := by
  intro p hp
  exact (List.mem_append.1 hp).elim (hps p) (hqs p)

end Alphabet.SpellsAll

section Definitions

variable {α : Type} [Scalar α] {A : Alphabet α}

/-- A definition of the library without texts among its values. -/
theorem spelled_numbers {type name : String} (typeLine : '\n' ∉ type.toList)
    (nameLine : '\n' ∉ name.toList) (xs : List (ParamValue α))
    (numbers : ∀ s, ParamValue.string s ∉ xs) : (Param.define type name xs).Spelled A :=
  Param.spelled_define (A.spells_of_line typeLine) (A.spells_of_line nameLine)
    fun s hs => absurd hs (numbers s)

/-- A definition of the library with one text as its value. -/
theorem spelled_string {type name text : String} (typeLine : '\n' ∉ type.toList)
    (nameLine : '\n' ∉ name.toList) (spelled : A.Spells text) :
    (Param.define type name [.string text] : Param α).Spelled A := by
  refine Param.spelled_define (A.spells_of_line typeLine) (A.spells_of_line nameLine) fun s hs => ?_
  obtain rfl : s = text := by simpa using hs
  exact spelled

end Definitions

end SceneScript
