import SceneScript.Call.Raw

/-!
# Checked values

The result of checking a raw value: either a typed value, or all that is wrong with it. Checks of
several parts are combined without stopping at the first fault, so that one message names them
all, in the order of the parts.
-/

set_option autoImplicit false

namespace SceneScript

/-- One step into a raw value. -/
inductive PathStep where
  | field (name : String)
  | item (place : Nat)
deriving DecidableEq, Repr

/-- The text of a step. -/
def PathStep.text : PathStep → String
  | field name => name
  | item place => toString place

/-- What a list must have of its items. -/
inductive CountRule where
  /-- An exact number of items. -/
  | exact
  /-- A bound on the number of items. -/
  | bound
deriving DecidableEq, Repr

/-- What is wrong with a raw value. -/
inductive Problem where
  /-- Nothing is there. -/
  | missing
  /-- Something of another kind is there. -/
  | kind (wanted : String) (found : RawKind)
  /-- The number is not whole. -/
  | fraction
  /-- The text is empty. -/
  | emptyText
  /-- The text is none of the words. -/
  | unknownWord (words : List String) (found : String)
  /-- The list has fewer items than it must have. -/
  | tooFew (rule : CountRule) (count : Nat)
  /-- The list has more items than it may have. -/
  | tooMany (rule : CountRule) (count : Nat)
deriving DecidableEq, Repr

namespace Problem

/-- Words in quotes, with bars between them. -/
def alternatives (words : List String) : String :=
  " | ".intercalate (words.map (fun w => "'" ++ w ++ "'"))

/-- How many items are asked for. -/
def countPhrase (bound : String) : CountRule → String
  | .exact => "exactly"
  | .bound => bound

/-- The wording of a problem. -/
def wording : Problem → String
  | missing => "Required"
  | kind wanted found => "Expected " ++ wanted ++ ", received " ++ found.name
  | fraction => "Expected integer, received float"
  | emptyText => "String must contain at least 1 character(s)"
  | unknownWord words found =>
    "Invalid enum value. Expected " ++ alternatives words ++ ", received '" ++ found ++ "'"
  | tooFew rule count =>
    "Array must contain " ++ countPhrase "at least" rule ++ " " ++ toString count ++ " element(s)"
  | tooMany rule count =>
    "Array must contain " ++ countPhrase "at most" rule ++ " " ++ toString count ++ " element(s)"

/-- The class of a problem. -/
def code : Problem → String
  | missing => "invalid_type"
  | kind _ _ => "invalid_type"
  | fraction => "invalid_type"
  | emptyText => "too_small"
  | unknownWord _ _ => "invalid_enum_value"
  | tooFew _ _ => "too_small"
  | tooMany _ _ => "too_big"

end Problem

/-- A problem and the way to it. -/
structure Issue where
  path : List PathStep
  problem : Problem
deriving DecidableEq, Repr

namespace Issue

/-- The issue seen from one step further out. -/
def under (step : PathStep) (i : Issue) : Issue :=
  { i with path := step :: i.path }

/-- The path and the wording, or the wording alone for the value as a whole. -/
def text (i : Issue) : String :=
  if i.path.isEmpty then i.problem.wording
  else ".".intercalate (i.path.map PathStep.text) ++ ": " ++ i.problem.wording

/-- All issues in one line. -/
def listing (issues : List Issue) : String :=
  "; ".intercalate (issues.map text)

end Issue

/-- A typed value, or the issues of a raw one. -/
inductive Checked (β : Type) where
  | valid (value : β)
  | invalid (issues : List Issue)

namespace Checked

variable {β γ : Type}

/-- One problem of the value as a whole. -/
def problem (p : Problem) : Checked β :=
  invalid [⟨[], p⟩]

/-- The issues, none for a valid value. -/
def issues : Checked β → List Issue
  | valid _ => []
  | invalid is => is

/-- The value changed by a function. -/
def map (f : β → γ) : Checked β → Checked γ
  | valid b => valid (f b)
  | invalid is => invalid is

/-- A function applied to one more part; the issues of both are collected. -/
def ap (f : Checked (β → γ)) (b : Checked β) : Checked γ :=
  match f, b with
  | valid f, valid b => valid (f b)
  | valid _, invalid is => invalid is
  | invalid is, valid _ => invalid is
  | invalid is, invalid js => invalid (is ++ js)

/-- The result seen from one step further out. -/
def under (step : PathStep) : Checked β → Checked β
  | valid b => valid b
  | invalid is => invalid (is.map (Issue.under step))

/-- The result with issues found elsewhere put in front. -/
def after (found : List Issue) (b : Checked β) : Checked β :=
  if found.isEmpty then b else invalid (found ++ b.issues)

@[simp] theorem issues_valid (b : β) : (valid b).issues = [] := rfl

@[simp] theorem issues_invalid (is : List Issue) : (invalid is : Checked β).issues = is := rfl

@[simp] theorem issues_map (f : β → γ) (b : Checked β) : (b.map f).issues = b.issues := by
  cases b <;> rfl

/-- The issues of the parts are collected in the order of the parts. -/
@[simp] theorem issues_ap (f : Checked (β → γ)) (b : Checked β) :
    (f.ap b).issues = f.issues ++ b.issues := by
  cases f <;> cases b <;> simp [ap]

@[simp] theorem issues_under (step : PathStep) (b : Checked β) :
    (b.under step).issues = b.issues.map (Issue.under step) := by
  cases b <;> rfl

/-- Issues found elsewhere come before those of the value. -/
@[simp] theorem issues_after (found : List Issue) (b : Checked β) :
    (b.after found).issues = found ++ b.issues := by
  cases found <;> simp [after]

end Checked

end SceneScript
