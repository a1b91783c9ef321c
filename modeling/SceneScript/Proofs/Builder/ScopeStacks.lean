import SceneScript.Proofs.Builder.Runs

/-!
# The stacks behind the scopes

An open scope stands on one stack and what it saved on another: the graphics state for attribute
and object scopes, the transforms for transform scopes. Beside them an object definition is open or
not. `Lockstep` says how these four move together; that every reachable builder satisfies it is
shown in the module on lockstep.

`restore` is what the end of a scope does to the graphics state, in whichever way the scope ends.
An End directive and WorldEnd are both made of it (`leave`, `endWorld`).
-/

set_option autoImplicit false

namespace SceneScript

/-! ## Directives and scopes -/

/-- What a directive does to the blocks and scopes of a description. -/
inductive ScopeRole where
  | plain
  | opens (kind : ScopeKind)
  | closes (kind : ScopeKind)
  | startsWorld
  | endsWorld
deriving DecidableEq, Repr

/-- The role of a directive. -/
def Directive.scopeRole {α : Type} : Directive α → ScopeRole
  | .worldBegin => .startsWorld
  | .worldEnd => .endsWorld
  | .attributeBegin => .opens .attributes
  | .transformBegin => .opens .transforms
  | .objectBegin _ => .opens .object
  | .attributeEnd => .closes .attributes
  | .transformEnd => .closes .transforms
  | .objectEnd => .closes .object
  | _ => .plain

/-- Whether a scope of this kind saves the graphics state, and not the transforms only. -/
def ScopeKind.savesGraphics : ScopeKind → Bool
  | .attributes | .object => true
  | .transforms => false

/-- The number of scopes of a kind. -/
def Scope.countKind {α : Type} (kind : ScopeKind) (scopes : List (Scope α)) : Nat :=
  scopes.countP (fun s => decide (s.kind = kind))

namespace Scope

variable {α : Type} (kind : ScopeKind)

@[simp] theorem countKind_nil : countKind kind ([] : List (Scope α)) = 0 := rfl

@[simp] theorem countKind_cons (s : Scope α) (scopes : List (Scope α)) :
    countKind kind (s :: scopes) = countKind kind scopes + if s.kind = kind then 1 else 0 := by
  simp [countKind, List.countP_cons]

theorem countKind_pos (s : Scope α) (rest : List (Scope α)) :
    0 < countKind s.kind (s :: rest) := by
  rw [countKind_cons, if_pos rfl]
  exact Nat.succ_pos _

theorem countKind_pos_iff {scopes : List (Scope α)} :
    0 < countKind kind scopes ↔ ∃ s ∈ scopes, s.kind = kind := by
  simp [countKind, List.countP_pos_iff]

end Scope

namespace Builder

variable {α : Type}

/-! ## Lockstep -/

/-- The stacks of a builder go together with its open scopes, and there are none outside of the
world block. -/
structure Lockstep (b : Builder α) : Prop where
  savedGraphics : b.savedGraphics.length =
    Scope.countKind .attributes b.openScopes.scopes + Scope.countKind .object b.openScopes.scopes
  savedTransforms : b.savedTransforms.length = Scope.countKind .transforms b.openScopes.scopes
  openObject : Scope.countKind .object b.openScopes.scopes = if b.openObject.isSome then 1 else 0
  outsideWorld : b.phase ≠ .world → b.openScopes.scopes = []

/-- Two builders in the same block with the same scopes. An object definition may have grown. -/
structure SameScopes (b b' : Builder α) : Prop where
  phase : b'.phase = b.phase
  openScopes : b'.openScopes = b.openScopes
  savedGraphics : b'.savedGraphics = b.savedGraphics
  savedTransforms : b'.savedTransforms = b.savedTransforms
  openObject : b'.openObject.isSome = b.openObject.isSome

theorem SameScopes.refl (b : Builder α) : SameScopes b b :=
  ⟨rfl, rfl, rfl, rfl, rfl⟩

theorem SameScopes.trans {b c d : Builder α} (h : SameScopes b c) (k : SameScopes c d) :
    SameScopes b d :=
  ⟨k.phase.trans h.phase, k.openScopes.trans h.openScopes, k.savedGraphics.trans h.savedGraphics,
    k.savedTransforms.trans h.savedTransforms, k.openObject.trans h.openObject⟩

theorem Lockstep.of_sameScopes {b b' : Builder α} (lock : Lockstep b) (same : SameScopes b b') :
    Lockstep b' where
  savedGraphics := by rw [same.savedGraphics, same.openScopes]; exact lock.savedGraphics
  savedTransforms := by rw [same.savedTransforms, same.openScopes]; exact lock.savedTransforms
  openObject := by rw [same.openObject, same.openScopes]; exact lock.openObject
  outsideWorld := by rw [same.phase, same.openScopes]; exact lock.outsideWorld

namespace Lockstep

variable {b : Builder α} {s : Scope α} {rest : List (Scope α)}

/-- A scope that saved the graphics state finds it saved. -/
theorem savedGraphics_ne_nil (lock : Lockstep b) (scopes : b.openScopes.scopes = s :: rest)
    (saves : s.kind.savesGraphics = true) : b.savedGraphics ≠ [] := by
  intro empty
  have saved := lock.savedGraphics
  have counted := Scope.countKind_pos s rest
  rw [scopes, empty, List.length_nil] at saved
  cases h : s.kind with
  | transforms => simp [h, ScopeKind.savesGraphics] at saves
  | attributes => rw [h] at counted; omega
  | object => rw [h] at counted; omega

/-- A scope that saved the transforms finds them saved. -/
theorem savedTransforms_ne_nil (lock : Lockstep b) (scopes : b.openScopes.scopes = s :: rest)
    (saves : s.kind.savesGraphics = false) : b.savedTransforms ≠ [] := by
  intro empty
  have saved := lock.savedTransforms
  have counted := Scope.countKind_pos s rest
  rw [scopes, empty, List.length_nil] at saved
  cases h : s.kind with
  | transforms => rw [h] at counted; omega
  | attributes => simp [h, ScopeKind.savesGraphics] at saves
  | object => simp [h, ScopeKind.savesGraphics] at saves

end Lockstep

/-! ## The end of a scope -/

/-- The builder with what a scope of some kind saved put back; as it is if nothing is saved. -/
def restore (b : Builder α) : ScopeKind → Builder α
  | .attributes | .object =>
    match b.savedGraphics with
    | [] => b
    | g :: rest => { b with graphics := g, savedGraphics := rest }
  | .transforms =>
    match b.savedTransforms with
    | [] => b
    | saved :: rest =>
      { b with
        graphics := { b.graphics with ctm := saved.ctm, active := saved.active }
        savedTransforms := rest }

/-- The builder with the open object definition, if there is one, moved into the scene. -/
def finishObject (b : Builder α) : Builder α :=
  match b.openObject with
  | none => b
  | some definition =>
    { b with
      scene := { b.scene with objects := b.scene.objects.insert definition.name definition }
      openObject := none
      objectsDefined := b.objectsDefined + 1 }

theorem finishObject_of_none {b : Builder α} (closed : b.openObject = none) :
    b.finishObject = b := by
  simp [finishObject, closed]

theorem finishObject_of_some {b : Builder α} {definition : ObjectDefinition α}
    (opened : b.openObject = some definition) :
    b.finishObject =
      { b with
        scene := { b.scene with objects := b.scene.objects.insert definition.name definition }
        openObject := none
        objectsDefined := b.objectsDefined + 1 } := by
  simp [finishObject, opened]

/-- The builder after the End of a scope, with `rest` still open. -/
def leave (b : Builder α) (rest : List (Scope α)) (kind : ScopeKind) : Builder α :=
  let restored := { b with openScopes := ⟨rest⟩ }.restore kind
  if kind = .object then restored.finishObject else restored

/-- The builder with what scopes saved put back, innermost first. -/
def restoreAll (b : Builder α) (scopes : List (Scope α)) : Builder α :=
  scopes.foldl (fun b s => b.restore s.kind) b

/-- The builder after WorldEnd. -/
def endWorld (b : Builder α) : Builder α :=
  { ({ b with openScopes := .none }.restoreAll b.openScopes.scopes).finishObject with
    phase := .finished }

section Restore

variable (b : Builder α) (kind : ScopeKind)

@[simp] theorem phase_restore : (b.restore kind).phase = b.phase := by
  cases kind <;> simp only [restore] <;> split <;> rfl

@[simp] theorem openScopes_restore : (b.restore kind).openScopes = b.openScopes := by
  cases kind <;> simp only [restore] <;> split <;> rfl

@[simp] theorem openObject_restore : (b.restore kind).openObject = b.openObject := by
  cases kind <;> simp only [restore] <;> split <;> rfl

@[simp] theorem savedGraphics_restore : (b.restore kind).savedGraphics =
    if kind.savesGraphics then b.savedGraphics.tail else b.savedGraphics := by
  cases kind <;> simp only [restore, ScopeKind.savesGraphics] <;> split <;> simp_all

@[simp] theorem savedTransforms_restore : (b.restore kind).savedTransforms =
    if kind.savesGraphics then b.savedTransforms else b.savedTransforms.tail := by
  cases kind <;> simp only [restore, ScopeKind.savesGraphics] <;> split <;> simp_all

@[simp] theorem phase_finishObject : b.finishObject.phase = b.phase := by
  unfold finishObject
  split <;> rfl

@[simp] theorem openScopes_finishObject : b.finishObject.openScopes = b.openScopes := by
  unfold finishObject
  split <;> rfl

@[simp] theorem savedGraphics_finishObject : b.finishObject.savedGraphics = b.savedGraphics := by
  unfold finishObject
  split <;> rfl

@[simp] theorem savedTransforms_finishObject :
    b.finishObject.savedTransforms = b.savedTransforms := by
  unfold finishObject
  split <;> rfl

@[simp] theorem openObject_finishObject : b.finishObject.openObject = none := by
  unfold finishObject
  split <;> simp_all

@[simp] theorem graphics_finishObject : b.finishObject.graphics = b.graphics := by
  unfold finishObject
  split <;> rfl

section Leave

variable (rest : List (Scope α))

@[simp] theorem phase_leave : (b.leave rest kind).phase = b.phase := by
  unfold leave
  split <;> simp

@[simp] theorem openScopes_leave : (b.leave rest kind).openScopes = ⟨rest⟩ := by
  unfold leave
  split <;> simp

@[simp] theorem savedGraphics_leave : (b.leave rest kind).savedGraphics =
    if kind.savesGraphics then b.savedGraphics.tail else b.savedGraphics := by
  unfold leave
  split <;> simp

@[simp] theorem savedTransforms_leave : (b.leave rest kind).savedTransforms =
    if kind.savesGraphics then b.savedTransforms else b.savedTransforms.tail := by
  unfold leave
  split <;> simp

@[simp] theorem openObject_leave : (b.leave rest kind).openObject =
    if kind = .object then none else b.openObject := by
  unfold leave
  split <;> simp

end Leave

/-- Going back through all scopes takes as much off each stack as there are scopes that saved
there. -/
theorem stacks_restoreAll (scopes : List (Scope α)) :
    (b.restoreAll scopes).savedGraphics = b.savedGraphics.drop
        (Scope.countKind .attributes scopes + Scope.countKind .object scopes) ∧
      (b.restoreAll scopes).savedTransforms =
        b.savedTransforms.drop (Scope.countKind .transforms scopes) ∧
      (b.restoreAll scopes).openScopes = b.openScopes ∧
      (b.restoreAll scopes).openObject = b.openObject := by
  induction scopes generalizing b with
  | nil => simp [restoreAll]
  | cons s rest ih =>
    obtain ⟨graphics, transforms, scopes, object⟩ := ih (b.restore s.kind)
    have step : b.restoreAll (s :: rest) = (b.restore s.kind).restoreAll rest := rfl
    rw [step, graphics, transforms, scopes, object]
    -- the innermost scope takes the first entry off the stack on which it saved
    cases h : s.kind with
    | transforms => simp [h, ScopeKind.savesGraphics]
    | attributes => simp [h, ScopeKind.savesGraphics, Nat.add_right_comm _ 1]
    | object => simp [h, ScopeKind.savesGraphics, Nat.add_assoc]

end Restore

end Builder

end SceneScript
