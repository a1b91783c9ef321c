import SceneScript.Action

/-!
# Sequences of actions

`Action.forEach` runs one action for every element of a list and stops at the first failure. A
finished sequence is one in which every element finished in its turn (`finished_forEach_cons`,
`finished_forEach_append`); a failed one has a first element that failed, and keeps the state in
which that element left it (`exists_of_forEach_error`).

`Action.Relates` runs two actions side by side, from states that are related. There is a lemma for
each way of making actions.
-/

set_option autoImplicit false

namespace SceneScript

namespace Action

variable {ε σ ν β γ : Type}

/-- Reading the state has no effect of its own. -/
theorem run_get_bind (next : σ → Action ε σ ν γ) (s : σ) :
    ((get : Action ε σ ν σ) >>= next).run s = (next s).run s := rfl

/-- After a first action that finishes, the second one runs. -/
theorem run_bind_of_eq_ok {act : Action ε σ ν β} {next : β → Action ε σ ν γ} {s s' : σ} {b : β}
    {ns : List ν} (h : act.run s = ⟨.ok b, s', ns⟩) :
    (act >>= next).run s =
      ⟨((next b).run s').result, ((next b).run s').state, ns ++ ((next b).run s').notices⟩ := by
  rw [run_bind, h]

/-- After a first action that fails, nothing more runs. -/
theorem run_bind_of_eq_error {act : Action ε σ ν β} {next : β → Action ε σ ν γ} {s s' : σ} {e : ε}
    {ns : List ν} (h : act.run s = ⟨.error e, s', ns⟩) :
    (act >>= next).run s = ⟨.error e, s', ns⟩ := by
  rw [run_bind, h]

/-- A first action that fails leaves everything as it is then. -/
theorem run_bind_of_error {act : Action ε σ ν β} (next : β → Action ε σ ν γ) {s : σ} {e : ε}
    (h : (act.run s).result = .error e) :
    (act >>= next).run s = ⟨.error e, (act.run s).state, (act.run s).notices⟩ :=
  run_bind_of_eq_error (by rw [← h])

/-- A first action that fails is the failure of the whole. -/
theorem result_bind_of_error {act : Action ε σ ν β} (next : β → Action ε σ ν γ) {s : σ} {e : ε}
    (h : (act.run s).result = .error e) : ((act >>= next).run s).result = .error e := by
  rw [run_bind_of_error next h]

/-- After a first action that finishes, the second one decides. -/
theorem run_bind_of_ok {act : Action ε σ ν β} (next : β → Action ε σ ν γ) {s : σ} {b : β}
    (h : (act.run s).result = .ok b) :
    (act >>= next).run s =
      ⟨((next b).run (act.run s).state).result, ((next b).run (act.run s).state).state,
        (act.run s).notices ++ ((next b).run (act.run s).state).notices⟩ :=
  run_bind_of_eq_ok (by rw [← h])

/-- An action on a state of its own finishes as it does by itself, and leaves the state alone. -/
theorem run_runOn_of_ok {τ δ μ : Type} {act : Action δ τ μ β} {own : τ} {b : β}
    (failure : δ → ε) (notice : μ → ν) (s : σ) (h : (act.run own).result = .ok b) :
    (act.runOn own failure notice).run s =
      ⟨.ok (b, (act.run own).state), s, (act.run own).notices.map notice⟩ := by
  simp only [runOn, run] at h ⊢
  rw [h]

/-- An action on a state of its own fails as it does by itself, and leaves the state alone. -/
theorem run_runOn_of_error {τ δ μ : Type} {act : Action δ τ μ β} {own : τ} {e : δ}
    (failure : δ → ε) (notice : μ → ν) (s : σ) (h : (act.run own).result = .error e) :
    (act.runOn own failure notice).run s =
      ⟨.error (failure e), s, (act.run own).notices.map notice⟩ := by
  simp only [runOn, run] at h ⊢
  rw [h]

/-- An action without a value has finished if it has not failed. -/
theorem eq_ok_of_isOk {r : Except ε Unit} (finished : r.isOk = true) : r = .ok () := by
  cases r with
  | error e => exact absurd finished Bool.false_ne_true
  | ok v => rfl

/-! ## Running over a list -/

section ForEach

variable (f : β → Action ε σ ν Unit)

/-- What is left after a nonempty list if its first element finishes. -/
theorem run_forEach_cons_of_finished {b : β} {s : σ} (rest : List β)
    (h : ((f b).run s).result = .ok ()) :
    (forEach f (b :: rest)).run s =
      ⟨((forEach f rest).run ((f b).run s).state).result,
        ((forEach f rest).run ((f b).run s).state).state,
        ((f b).run s).notices ++ ((forEach f rest).run ((f b).run s).state).notices⟩ := by
  rw [forEach_cons]
  refine run_bind_of_eq_ok (b := ()) ?_
  rw [← h]

/-- What is left after a nonempty list if its first element fails. -/
theorem run_forEach_cons_of_error {b : β} {s : σ} {e : ε} (rest : List β)
    (h : ((f b).run s).result = .error e) :
    (forEach f (b :: rest)).run s = ⟨.error e, ((f b).run s).state, ((f b).run s).notices⟩ := by
  rw [forEach_cons]
  refine run_bind_of_eq_error ?_
  rw [← h]

/-- A list finishes if and only if its first element does and the others do after it. -/
theorem finished_forEach_cons {b : β} {rest : List β} {s : σ} :
    ((forEach f (b :: rest)).run s).result = .ok () ↔
      ((f b).run s).result = .ok () ∧
        ((forEach f rest).run ((f b).run s).state).result = .ok () := by
  cases h : ((f b).run s).result with
  | error e =>
    rw [run_forEach_cons_of_error f rest h]
    simp
  | ok v =>
    rw [run_forEach_cons_of_finished f rest h]
    simp

/-- Two lists one after the other finish if and only if the first one does and the second one does
after it. -/
theorem finished_forEach_append {bs cs : List β} {s : σ} :
    ((forEach f (bs ++ cs)).run s).result = .ok () ↔
      ((forEach f bs).run s).result = .ok () ∧
        ((forEach f cs).run ((forEach f bs).run s).state).result = .ok () := by
  induction bs generalizing s with
  | nil => simp
  | cons b rest ih =>
    rw [List.cons_append, finished_forEach_cons, finished_forEach_cons, ih, and_assoc]
    refine and_congr_right fun h => ?_
    rw [run_forEach_cons_of_finished f rest h]

/-- A list that fails has a first element that fails: those before it finish, and the list leaves
the state and the notices up to and with that element. -/
theorem exists_of_forEach_error {bs : List β} {s : σ} {e : ε}
    (h : ((forEach f bs).run s).result = .error e) :
    ∃ k b o, bs[k]? = some b ∧ ((forEach f (bs.take k)).run s).result = .ok () ∧
      (f b).run ((forEach f (bs.take k)).run s).state = o ∧ o.result = .error e ∧
      (forEach f bs).run s =
        ⟨.error e, o.state, ((forEach f (bs.take k)).run s).notices ++ o.notices⟩ := by
  induction bs generalizing s with
  | nil => simp at h
  | cons b rest ih =>
    cases hb : ((f b).run s).result with
    | error d =>
      rw [run_forEach_cons_of_error f rest hb] at h ⊢
      obtain rfl : d = e := Except.error.inj h
      exact ⟨0, b, (f b).run s, rfl, rfl, rfl, hb, rfl⟩
    | ok v =>
      rw [run_forEach_cons_of_finished f rest hb] at h
      obtain ⟨k, c, o, hc, done, run, fails, left⟩ := ih h
      refine ⟨k + 1, c, o, by simpa using hc, ?_, ?_, fails, ?_⟩
      · rw [List.take_succ_cons, finished_forEach_cons]
        exact ⟨hb, done⟩
      · rw [List.take_succ_cons, run_forEach_cons_of_finished f _ hb]
        exact run
      · rw [List.take_succ_cons, run_forEach_cons_of_finished f rest hb,
          run_forEach_cons_of_finished f _ hb, left]
        simp

end ForEach

/-! ## Two runs side by side -/

/-- From states that are related, both actions come to the same result, and to states that are
related. -/
def Relates (R : σ → σ → Prop) (act act' : Action ε σ ν β) : Prop :=
  ∀ s t, R s t → (act.run s).result = (act'.run t).result ∧ R (act.run s).state (act'.run t).state

namespace Relates

variable {R : σ → σ → Prop}

theorem pure (v : β) : Relates R (Pure.pure v : Action ε σ ν β) (Pure.pure v) :=
  fun _ _ related => ⟨rfl, related⟩

theorem fail (e : ε) : Relates R (Action.fail e : Action ε σ ν β) (Action.fail e) :=
  fun _ _ related => ⟨rfl, related⟩

theorem notify (n m : ν) : Relates R (Action.notify n : Action ε σ ν Unit) (Action.notify m) :=
  fun _ _ related => ⟨rfl, related⟩

theorem modify {f g : σ → σ} (keeps : ∀ s t, R s t → R (f s) (g t)) :
    Relates R (Action.modify f : Action ε σ ν Unit) (Action.modify g) :=
  fun s t related => ⟨rfl, keeps s t related⟩

theorem bind {act act' : Action ε σ ν β} {next next' : β → Action ε σ ν γ}
    (first : Relates R act act') (second : ∀ v, Relates R (next v) (next' v)) :
    Relates R (act >>= next) (act' >>= next') := by
  intro s t related
  obtain ⟨result, state⟩ := first s t related
  rw [run_bind, run_bind]
  generalize act.run s = o at result state ⊢
  generalize act'.run t = o' at result state ⊢
  obtain ⟨r, s', ns⟩ := o
  obtain ⟨r', t', ns'⟩ := o'
  obtain rfl : r = r' := result
  cases r with
  | error e => exact ⟨rfl, state⟩
  | ok v => exact second v s' t' state

/-- What is done after a look at the state may depend on the state. -/
theorem get_bind {next next' : σ → Action ε σ ν γ}
    (second : ∀ s t, R s t → Relates R (next s) (next' t)) :
    Relates R (Action.get >>= next) (Action.get >>= next') :=
  fun s t related => second s t related s t related

theorem forEach {f : β → Action ε σ ν Unit} (each : ∀ v, Relates R (f v) (f v)) (vs : List β) :
    Relates R (Action.forEach f vs) (Action.forEach f vs) := by
  induction vs with
  | nil => exact pure ()
  | cons v rest ih => exact (each v).bind fun _ => ih

end Relates

end Action

end SceneScript
