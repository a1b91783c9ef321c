import SceneScript.Message
import SceneScript.Text.Blanks
import SceneScript.Vocabulary

/-!
# Open scopes

Begin and End directives must pair up like brackets of three kinds. `OpenScopes` records the scopes
that are open. Closing a scope of the wrong kind, or when none is open, fails and leaves the record
alone.

The builder checks its scopes with such a record, and the writer takes its indentation from the
number of open scopes.
-/

set_option autoImplicit false

namespace SceneScript

/-- The three kinds of scopes. -/
inductive ScopeKind where
  | attributes
  | transforms
  | object
deriving DecidableEq, Repr

namespace ScopeKind

/-- The word for a kind. -/
def name : ScopeKind → String
  | attributes => "attribute"
  | transforms => "transform"
  | object => "object"

/-- The directive that opens a scope. -/
def beginWord : ScopeKind → String
  | attributes => "AttributeBegin"
  | transforms => "TransformBegin"
  | object => "ObjectBegin"

/-- The directive that closes a scope. -/
def endWord : ScopeKind → String
  | attributes => "AttributeEnd"
  | transforms => "TransformEnd"
  | object => "ObjectEnd"

end ScopeKind

/-- An open scope and the place of its Begin. -/
structure Scope (α : Type) where
  kind : ScopeKind
  loc : Location α

/-- Why an End of some kind closes no scope. -/
inductive ScopeError (α : Type) where
  /-- No scope is open. -/
  | unmatched (kind : ScopeKind)
  /-- The innermost open scope is of another kind. -/
  | mismatched (kind : ScopeKind) (innermost : Scope α)

/-- The wording of a failure names the End, and the Begin that is still open. -/
def ScopeError.wording {α : Type} [Scalar α] : ScopeError α → String
  | unmatched kind => "Unmatched " ++ kind.endWord ++ " encountered"
  | mismatched kind innermost =>
    "Mismatched nesting: open " ++ innermost.kind.beginWord ++ " from " ++ innermost.loc.text
      ++ " at " ++ kind.endWord

/-- The open scopes, innermost first. -/
structure OpenScopes (α : Type) where
  scopes : List (Scope α)

namespace OpenScopes

variable {α : Type}

/-- No scope is open. -/
def none : OpenScopes α := ⟨[]⟩

/-- Opens a scope. -/
def push (kind : ScopeKind) (loc : Location α) (o : OpenScopes α) : OpenScopes α :=
  ⟨⟨kind, loc⟩ :: o.scopes⟩

/-- Closes the innermost scope, which must be of the given kind. -/
def pop (kind : ScopeKind) (o : OpenScopes α) : Except (ScopeError α) (Scope α × OpenScopes α) :=
  match o.scopes with
  | [] => .error (.unmatched kind)
  | innermost :: rest =>
    if innermost.kind = kind then .ok (innermost, ⟨rest⟩)
    else .error (.mismatched kind innermost)

/-- Closes all scopes; they are returned innermost first. -/
def closeAll (o : OpenScopes α) : List (Scope α) × OpenScopes α :=
  (o.scopes, none)

/-- The number of open scopes. -/
def depth (o : OpenScopes α) : Nat :=
  o.scopes.length

/-- The innermost open scope. -/
def top? (o : OpenScopes α) : Option (Scope α) :=
  o.scopes.head?

/-- The blanks before a line at the present depth and `extra` levels more. -/
def indent (o : OpenScopes α) (extra : Nat) : String :=
  blanks (indentWidth * (o.depth + extra))

/-- The blanks before a line `shift` levels away from the present depth: further in, or, below zero,
further out. The shift may be a part of a level. A line cannot stand outside of all scopes. -/
def indentBy [Scalar α] (o : OpenScopes α) (shift : α) : Except (IndentError α) String :=
  (blankCount (Scalar.ofNat indentWidth * (Scalar.ofNat o.depth + shift))).map blanks

/-- Where the arithmetic is exact, a shift by whole levels gives the blanks of `indent`. -/
theorem indentBy_of_wholePart? [Scalar α] {o : OpenScopes α} {shift : α} {extra : Nat}
    (whole : Scalar.wholePart? (Scalar.ofNat indentWidth * (Scalar.ofNat o.depth + shift) : α)
      = some ((indentWidth * (o.depth + extra) : Nat) : Int))
    (fits : indentWidth * (o.depth + extra) ≤ longestText) :
    o.indentBy shift = .ok (o.indent extra) := by
  rw [indentBy, indent, blankCount_of_wholePart? whole fits]
  rfl

@[simp] theorem scopes_push (kind : ScopeKind) (loc : Location α) (o : OpenScopes α) :
    (o.push kind loc).scopes = ⟨kind, loc⟩ :: o.scopes := rfl

@[simp] theorem depth_push (kind : ScopeKind) (loc : Location α) (o : OpenScopes α) :
    (o.push kind loc).depth = o.depth + 1 := rfl

/-- Closing succeeds exactly if the innermost scope is of the kind, and takes away that scope. -/
theorem pop_eq_ok_iff {kind : ScopeKind} {o rest : OpenScopes α} {s : Scope α} :
    o.pop kind = .ok (s, rest) ↔ o.scopes = s :: rest.scopes ∧ s.kind = kind := by
  rcases o with ⟨_ | ⟨t, ts⟩⟩
  · simp [pop]
  · rcases rest with ⟨rs⟩
    by_cases h : t.kind = kind
    · simp only [pop, h, if_true, Except.ok.injEq, Prod.mk.injEq, OpenScopes.mk.injEq,
        List.cons.injEq]
      constructor
      · rintro ⟨rfl, rfl⟩
        exact ⟨⟨rfl, rfl⟩, h⟩
      · rintro ⟨⟨rfl, rfl⟩, _⟩
        exact ⟨rfl, rfl⟩
    · simp only [pop, h, if_false, reduceCtorEq, List.cons.injEq, false_iff, not_and]
      rintro ⟨rfl, _⟩
      exact h

end OpenScopes

end SceneScript
