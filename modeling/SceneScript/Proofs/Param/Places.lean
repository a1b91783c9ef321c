import Mathlib.Data.List.Basic
import SceneScript.Proofs.Param.EditHistories

/-!
# What happens at a place of a dictionary

Parameters of a dictionary may look alike, so an entry is known by the place where its parameter
stood when the dictionary was made (`Place`). `Contents.left?` says what a history has made of the
parameter at a place, `Contents.Wins` at which place a question is answered, and `Contents.Returned`
whether a lookup has returned what is there since it was made or last renamed. None of these looks
at the marks of a dictionary.

From this it follows what has to be reported as unused (`Contents.Reported`). One more step takes
something from the report only by removing it or returning it (`Contents.Reported.concat`).
-/

set_option autoImplicit false

namespace SceneScript

open Dictionary (Step fate)

/-! ## Places -/

/-- Where a parameter stood when a dictionary was made: among the dictionary's own parameters or
among the inherited ones, counted from zero. -/
inductive Place where
  | own (i : Nat)
  | inherited (i : Nat)

/-- If the parameters at both places are asked for, the one at the first place answers: it is a
later one of the same list, or an own one against an inherited one. -/
inductive Place.Outranks : Place → Place → Prop
  | own {i j : Nat} : j < i → Outranks (.own i) (.own j)
  | inherited {i j : Nat} : j < i → Outranks (.inherited i) (.inherited j)
  | ownFirst {i j : Nat} : Outranks (.own i) (.inherited j)

namespace Contents

variable {α : Type}

/-- The parameter that stands at a place. -/
def placed? (c : Contents α) : Place → Option (Param α)
  | .own i => c.own[i]?
  | .inherited i => c.inherited[i]?

/-- All places, in the order of the parameters. -/
def places (c : Contents α) : List Place :=
  (List.range c.own.length).map .own ++ (List.range c.inherited.length).map .inherited

/-- What a history has made of the parameter at a place, if it has left it. -/
def left? (c : Contents α) (steps : List Step) (place : Place) : Option (Param α) :=
  (c.placed? place).bind (fate steps)

/-- After a history, a question is answered by what is left at a place: it is asked for, and nothing
that is left at a place of higher rank is. -/
structure Wins (c : Contents α) (steps : List Step) (q : Question) (place : Place)
    (p : Param α) : Prop where
  left : c.left? steps place = some p
  wanted : q.wants p = true
  unrivalled : ∀ rival r, rival.Outranks place → c.left? steps rival = some r →
    q.wants r = false

/-- A lookup of a history has returned what is at a place, and no renaming after that lookup has
given it a name. -/
def Returned (c : Contents α) (steps : List Step) (place : Place) : Prop :=
  ∃ before q later p, steps = before ++ .ask q :: later ∧ c.Wins before q place p ∧
    ∀ front old new behind r, later = front ++ .rename old new :: behind →
      c.left? (before ++ .ask q :: front) place = some r → r.name ≠ old

/-- What is at a place has to be reported after a history: it is left, it is not allowed to stay
unused, and it was not returned. -/
def Reported (c : Contents α) (steps : List Step) (place : Place) : Prop :=
  ∃ p, c.left? steps place = some p ∧ p.unusedAllowed = false ∧ ¬ c.Returned steps place

end Contents

/-! ## One more step -/

theorem Dictionary.fate_concat {α : Type} (steps : List Step) (s : Step) :
    fate (α := α) (steps ++ [s]) = fun p => (fate steps p).bind s.act := by
  induction steps with
  | nil =>
    funext p
    simp [fate]
  | cons t rest ih =>
    funext p
    rw [List.cons_append, fate, fate, ih, Option.bind_assoc]

namespace Contents

variable {α : Type} (c : Contents α) (steps : List Step) (s : Step) (place : Place)

theorem left?_concat : c.left? (steps ++ [s]) place = (c.left? steps place).bind s.act := by
  rw [left?, left?, Dictionary.fate_concat, Option.bind_assoc]

theorem not_returned_nil : ¬ c.Returned [] place := by
  rintro ⟨before, q, later, p, split, -⟩
  simp at split

/-- A step of a longer history is its last step, or one before it. -/
theorem concat_eq_append_cons {before later : List Step} {t : Step}
    (split : steps ++ [s] = before ++ t :: later) :
    (steps = before ∧ s = t ∧ later = []) ∨
      ∃ rest, later = rest ++ [s] ∧ steps = before ++ t :: rest := by
  rcases List.eq_nil_or_concat' later with rfl | ⟨rest, last, rfl⟩
  · obtain ⟨rfl, rfl⟩ := List.append_singleton_inj.1 split
    exact Or.inl ⟨rfl, rfl, rfl⟩
  · rw [← List.cons_append, ← List.append_assoc, List.append_singleton_inj] at split
    obtain ⟨rfl, rfl⟩ := split
    exact Or.inr ⟨rest, rfl, rfl⟩

/-- What is at a place was returned up to a step if the step is a lookup that returns it, or if it
was returned before and the step does not rename it. -/
theorem returned_concat_iff : c.Returned (steps ++ [s]) place ↔
    (∃ q p, s = .ask q ∧ c.Wins steps q place p) ∨
      (c.Returned steps place ∧
        ∀ old new r, s = .rename old new → c.left? steps place = some r → r.name ≠ old) := by
  constructor
  · rintro ⟨before, q, later, p, split, wins, kept⟩
    rcases concat_eq_append_cons _ _ split with ⟨rfl, rfl, rfl⟩ | ⟨later, rfl, rfl⟩
    · exact Or.inl ⟨q, p, rfl, wins⟩
    · refine Or.inr ⟨⟨before, q, later, p, rfl, wins, ?_⟩, ?_⟩
      · rintro front old new behind r rfl left
        exact kept front old new (behind ++ [s]) r (by simp) left
      · rintro old new r rfl left
        exact kept later old new [] r rfl left
  · rintro (⟨q, p, rfl, wins⟩ | ⟨⟨before, q, later, p, rfl, wins, kept⟩, last⟩)
    · exact ⟨steps, q, [], p, rfl, wins, by simp⟩
    · refine ⟨before, q, later ++ [s], p, by simp, wins, ?_⟩
      intro front old new behind r split left
      rcases concat_eq_append_cons _ _ split with ⟨rfl, rfl, rfl⟩ | ⟨behind, rfl, rfl⟩
      · exact last old new r rfl left
      · exact kept front old new behind r rfl left

/-- What has to be reported has to be reported after one more step too, if it is still left and the
step is not a lookup that returns it. -/
theorem Reported.concat {c : Contents α} {steps : List Step} {s : Step} {place : Place}
    (reported : c.Reported steps place) (left : (c.left? (steps ++ [s]) place).isSome)
    (unreturned : ∀ q p, s = .ask q → ¬ c.Wins steps q place p) :
    c.Reported (steps ++ [s]) place := by
  obtain ⟨p, was, counts, never⟩ := reported
  obtain ⟨p', is⟩ := Option.isSome_iff_exists.1 left
  refine ⟨p', is, ?_, ?_⟩
  · rw [left?_concat, was, Option.bind_some] at is
    -- no step changes whether a parameter may stay unused
    cases s with
    | ask q =>
      obtain rfl := Option.some.inj is
      exact counts
    | remove q =>
      simp only [Step.act, Option.ite_none_left_eq_some, Option.some.injEq] at is
      exact is.2 ▸ counts
    | rename old new =>
      obtain rfl := Option.some.inj is
      unfold Param.renamed
      split <;> exact counts
  · rw [returned_concat_iff]
    rintro (⟨q, r, ask, wins⟩ | ⟨returned, -⟩)
    · exact unreturned q r ask wins
    · exact never returned

end Contents

end SceneScript
