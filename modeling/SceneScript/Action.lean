/-!
# Actions

An action works on a state, gives notice of what it does on the way, and either finishes with a
value or fails. Failing keeps the state reached and the notices given so far, so that "a failing
directive changes nothing" is a property that an action may have or lack. Actions are sequenced
with do-notation.

The scene builder, the writer and the upgrade rules are actions over different states.
-/

set_option autoImplicit false

namespace SceneScript

/-- What an action came to: its value or the reason of its failure, the state it left, and its
notices in order. -/
structure Outcome (ε σ ν β : Type) where
  result : Except ε β
  state : σ
  notices : List ν

/-- An action with failures `ε`, state `σ` and notices `ν`. -/
def Action (ε σ ν β : Type) : Type := σ → Outcome ε σ ν β

namespace Action

variable {ε σ τ ν β γ : Type}

/-- Runs an action from a state. -/
def run (act : Action ε σ ν β) (s : σ) : Outcome ε σ ν β := act s

/-- Finishes with a value. -/
protected def pure (b : β) : Action ε σ ν β :=
  fun s => ⟨.ok b, s, []⟩

/-- Goes on with a second action, unless the first one fails. -/
protected def bind (act : Action ε σ ν β) (next : β → Action ε σ ν γ) : Action ε σ ν γ :=
  fun s =>
    match act s with
    | ⟨.error e, s', ns⟩ => ⟨.error e, s', ns⟩
    | ⟨.ok b, s', ns⟩ =>
      let o := next b s'
      ⟨o.result, o.state, ns ++ o.notices⟩

instance : Monad (Action ε σ ν) where
  pure := Action.pure
  bind := Action.bind

/-- Fails. -/
def fail (e : ε) : Action ε σ ν β :=
  fun s => ⟨.error e, s, []⟩

/-- The state. -/
def get : Action ε σ ν σ :=
  fun s => ⟨.ok s, s, []⟩

/-- Changes the state. -/
def modify (f : σ → σ) : Action ε σ ν Unit :=
  fun s => ⟨.ok (), f s, []⟩

/-- Changes the state and finishes with a value read from it. -/
def modifyGet (f : σ → β × σ) : Action ε σ ν β :=
  fun s => ⟨.ok (f s).1, (f s).2, []⟩

/-- Gives notice. -/
def notify (n : ν) : Action ε σ ν Unit :=
  fun s => ⟨.ok (), s, [n]⟩

/-- Finishes with a value, or fails for a reason found elsewhere. -/
def ofExcept (r : Except ε β) : Action ε σ ν β :=
  fun s => ⟨r, s, []⟩

/-- The same action with its failures put in other terms. -/
def mapError {δ : Type} (f : ε → δ) (act : Action ε σ ν β) : Action δ σ ν β :=
  fun s => ⟨(act s).result.mapError f, (act s).state, (act s).notices⟩

/-- Runs an action on a state of its own, which it starts from and hands back; its failures and
notices are passed on in the terms of the caller. -/
def runOn {δ μ : Type} (own : τ) (failure : δ → ε) (notice : μ → ν) (act : Action δ τ μ β) :
    Action ε σ ν (β × τ) :=
  fun s =>
    let o := act own
    ⟨match o.result with
      | .ok b => .ok (b, o.state)
      | .error e => .error (failure e), s, o.notices.map notice⟩

/-- Runs the action for every element in turn and stops at the first failure. -/
def forEach (f : β → Action ε σ ν Unit) : List β → Action ε σ ν Unit
  | [] => Action.pure ()
  | b :: rest => Action.bind (f b) (fun _ => forEach f rest)

/-! ## Running composed actions -/

@[simp] theorem run_pure (b : β) (s : σ) :
    (pure b : Action ε σ ν β).run s = ⟨.ok b, s, []⟩ := rfl

@[simp] theorem run_fail (e : ε) (s : σ) :
    (fail e : Action ε σ ν β).run s = ⟨.error e, s, []⟩ := rfl

@[simp] theorem run_get (s : σ) : (get : Action ε σ ν σ).run s = ⟨.ok s, s, []⟩ := rfl

@[simp] theorem run_modify (f : σ → σ) (s : σ) :
    (modify f : Action ε σ ν Unit).run s = ⟨.ok (), f s, []⟩ := rfl

@[simp] theorem run_modifyGet (f : σ → β × σ) (s : σ) :
    (modifyGet f : Action ε σ ν β).run s = ⟨.ok (f s).1, (f s).2, []⟩ := rfl

@[simp] theorem run_notify (n : ν) (s : σ) :
    (notify n : Action ε σ ν Unit).run s = ⟨.ok (), s, [n]⟩ := rfl

@[simp] theorem run_mapError {δ : Type} (f : ε → δ) (act : Action ε σ ν β) (s : σ) :
    (act.mapError f).run s = ⟨(act.run s).result.mapError f, (act.run s).state, (act.run s).notices⟩ :=
  rfl

@[simp] theorem run_ofExcept (r : Except ε β) (s : σ) :
    (ofExcept r : Action ε σ ν β).run s = ⟨r, s, []⟩ := rfl

@[simp] theorem forEach_nil (f : β → Action ε σ ν Unit) : forEach f [] = pure () := rfl

@[simp] theorem forEach_cons (f : β → Action ε σ ν Unit) (b : β) (rest : List β) :
    forEach f (b :: rest) = f b >>= fun _ => forEach f rest := rfl

/-- A failing first action ends the sequence; else its notices come before those of the second. -/
theorem run_bind (act : Action ε σ ν β) (next : β → Action ε σ ν γ) (s : σ) :
    (act >>= next).run s =
      match act.run s with
      | ⟨.error e, s', ns⟩ => ⟨.error e, s', ns⟩
      | ⟨.ok b, s', ns⟩ =>
        ⟨((next b).run s').result, ((next b).run s').state, ns ++ ((next b).run s').notices⟩ :=
  rfl

instance : LawfulMonad (Action ε σ ν) :=
  LawfulMonad.mk' (Action ε σ ν)
    (fun act => by
      funext s
      change (Action.bind act (fun b => Action.pure b)) s = act s
      rcases h : act s with ⟨_ | _, _, _⟩ <;> simp [Action.bind, Action.pure, h])
    (fun b next => by
      funext s
      rcases h : next b s with ⟨_, _, _⟩
      change (Action.bind (Action.pure b) next) s = _
      simp [Action.bind, Action.pure, h])
    (fun act f g => by
      funext s
      change (Action.bind (Action.bind act f) g) s
        = (Action.bind act (fun b => Action.bind (f b) g)) s
      rcases h : act s with ⟨e | b, s', ns⟩
      · simp [Action.bind, h]
      · rcases k : f b s' with ⟨e | c, s'', ms⟩ <;> simp [Action.bind, h, k])

/-- Running over one list and then another is running over both put together. -/
theorem forEach_append (f : β → Action ε σ ν Unit) (bs cs : List β) :
    forEach f (bs ++ cs) = forEach f bs >>= fun _ => forEach f cs := by
  induction bs with
  | nil => simp
  | cons b rest ih => simp [ih]

end Action

end SceneScript
