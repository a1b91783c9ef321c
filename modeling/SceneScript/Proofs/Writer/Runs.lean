import SceneScript.Call.Grammar
import SceneScript.Proofs.Action
import SceneScript.Writer.Interpret

/-!
# Runs of the writer

A run gives directives to a writer one after another, and the chunks that it puts out make up one
text (`textOf`). As with the builder, a caller may stop at the first failure (`carryOut`) or go on
with the scopes that the failing directive left (`after`, `noticesOf`).
-/

set_option autoImplicit false

namespace SceneScript

namespace WriteNotice

variable {α : Type}

/-- The text that a notice adds to the output; a message adds none. -/
def text : WriteNotice α → String
  | chunk text => text
  | message _ => ""

/-- Whether a notice puts out a chunk. -/
def isChunk : WriteNotice α → Bool
  | chunk _ => true
  | message _ => false

end WriteNotice

namespace Writer

variable {α : Type}

/-! ## Text -/

/-- The text that notices put out. -/
def textOf (ns : List (WriteNotice α)) : String :=
  String.join (ns.map WriteNotice.text)

@[simp] theorem textOf_nil : textOf ([] : List (WriteNotice α)) = "" := rfl

@[simp] theorem textOf_cons (n : WriteNotice α) (ns : List (WriteNotice α)) :
    textOf (n :: ns) = n.text ++ textOf ns := by
  simp [textOf]

@[simp] theorem textOf_append (ns ms : List (WriteNotice α)) :
    textOf (ns ++ ms) = textOf ns ++ textOf ms := by
  simp [textOf]

/-- Notices without a chunk put out nothing. -/
theorem textOf_eq_empty {ns : List (WriteNotice α)} (silent : ∀ n ∈ ns, n.isChunk = false) :
    textOf ns = "" := by
  induction ns with
  | nil => rfl
  | cons n rest ih =>
    rw [textOf_cons, ih fun m hm => silent m (List.mem_cons_of_mem n hm)]
    cases n with
    | chunk text => exact absurd (silent _ List.mem_cons_self) (by simp [WriteNotice.isChunk])
    | message m => rfl

@[simp] theorem textOf_messages (ms : List (Message α)) :
    textOf (ms.map WriteNotice.message) = "" := by
  apply textOf_eq_empty
  intro n hn
  obtain ⟨m, -, rfl⟩ := List.mem_map.1 hn
  rfl

/-! ## Runs -/

variable [Scalar α] (upgrading : Bool)

/-- What the writer does for a directive at its place. -/
def interpretAt (d : LocatedDirective α) : Write α Unit :=
  interpret upgrading d.directive d.loc

/-- What the writer does for directives in turn, up to the first failure. -/
def carryOut (ds : List (LocatedDirective α)) : Write α Unit :=
  Action.forEach (interpretAt upgrading) ds

/-- The scopes after one directive, failed or not. -/
def next (o : OpenScopes α) (d : LocatedDirective α) : OpenScopes α :=
  ((interpretAt upgrading d).run o).state

/-- The scopes after directives in turn, each given to the writer even if the one before failed. -/
def after (o : OpenScopes α) (ds : List (LocatedDirective α)) : OpenScopes α :=
  ds.foldl (next upgrading) o

/-- The notices of directives in turn, each given to the writer even if the one before failed. -/
def noticesOf (o : OpenScopes α) : List (LocatedDirective α) → List (WriteNotice α)
  | [] => []
  | d :: rest => ((interpretAt upgrading d).run o).notices ++ noticesOf (next upgrading o d) rest

/-- Whether a directive is written, and not refused. -/
def accepts (o : OpenScopes α) (d : LocatedDirective α) : Bool :=
  ((interpretAt upgrading d).run o).result.isOk

/-- The text that the writer puts out for a directive. -/
def textAt (o : OpenScopes α) (d : LocatedDirective α) : String :=
  textOf ((interpretAt upgrading d).run o).notices

variable {upgrading} {o : OpenScopes α} {d : LocatedDirective α} {ds : List (LocatedDirective α)}

@[simp] theorem after_nil : after upgrading o [] = o := rfl

@[simp] theorem after_cons :
    after upgrading o (d :: ds) = after upgrading (next upgrading o d) ds := rfl

@[simp] theorem after_append (es : List (LocatedDirective α)) :
    after upgrading o (ds ++ es) = after upgrading (after upgrading o ds) es :=
  List.foldl_append

theorem accepts_iff :
    accepts upgrading o d = true ↔ ((interpretAt upgrading d).run o).result = .ok () := by
  constructor
  · exact Action.eq_ok_of_isOk
  · intro done
    rw [accepts, done]
    rfl

theorem not_accepts_iff :
    accepts upgrading o d = false ↔ ∃ e, ((interpretAt upgrading d).run o).result = .error e := by
  rw [accepts]
  cases ((interpretAt upgrading d).run o).result with
  | error e => exact ⟨fun _ => ⟨e, rfl⟩, fun _ => rfl⟩
  | ok v => simp [Except.isOk, Except.toBool]

/-- A run is carried out if and only if its first directive is accepted and the others are carried
out after it. -/
theorem finished_carryOut_cons :
    ((carryOut upgrading (d :: ds)).run o).result = .ok () ↔
      accepts upgrading o d = true ∧
        ((carryOut upgrading ds).run (next upgrading o d)).result = .ok () := by
  rw [accepts_iff]
  exact Action.finished_forEach_cons (interpretAt upgrading)

theorem run_carryOut_cons (accepted : accepts upgrading o d = true) :
    (carryOut upgrading (d :: ds)).run o =
      ⟨((carryOut upgrading ds).run (next upgrading o d)).result,
        ((carryOut upgrading ds).run (next upgrading o d)).state,
        ((interpretAt upgrading d).run o).notices ++
          ((carryOut upgrading ds).run (next upgrading o d)).notices⟩ :=
  Action.run_forEach_cons_of_finished (interpretAt upgrading) ds (accepts_iff.1 accepted)

/-- Without a failure, both ways of running end with the same scopes. -/
theorem state_carryOut (done : ((carryOut upgrading ds).run o).result = .ok ()) :
    ((carryOut upgrading ds).run o).state = after upgrading o ds := by
  induction ds generalizing o with
  | nil => rfl
  | cons d rest ih =>
    obtain ⟨first, others⟩ := finished_carryOut_cons.1 done
    rw [run_carryOut_cons first]
    exact ih others

end Writer

end SceneScript
