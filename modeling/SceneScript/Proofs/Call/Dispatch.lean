import SceneScript.Proofs.Call.Forms
import SceneScript.Call.Interpreter

/-!
# What raw calls do

A raw value denotes a directive at a place if it is a call of the keyword, at this place, whose
arguments stand for those of the directive (`Raw.Denotes`). This is exactly when reading it gives the
directive (`Directive.ofRaw_eq_ok_iff`), so that a raw value denotes one directive at most.

An interpreter can keep a record of the directives that it is asked for (`Interpreter.recorded`). Of
a raw value that denotes a directive it is asked for this one, once; of any other value it is asked
for none, and the call fails.
-/

set_option autoImplicit false

namespace SceneScript

variable {α : Type} [Scalar α]

/-- The raw value is a call of the directive at its place. -/
def Raw.Denotes (r : Raw α) (d : LocatedDirective α) : Prop :=
  ∃ args, r.IsCall ⟨d.directive.keyword, args, d.loc⟩ ∧ d.directive.Takes args

/-- Reading gives exactly what the raw value denotes. -/
theorem Directive.ofRaw_eq_ok_iff {r : Raw α} {d : LocatedDirective α} :
    Directive.ofRaw r = .ok d ↔ r.Denotes d := by
  obtain ⟨directive, loc⟩ := d
  constructor
  · intro read
    rw [ofRaw] at read
    split at read
    · exact nomatch read
    · rename_i call checked
      split at read
      · exact nomatch read
      · rename_i rule found
        split at read
        · exact nomatch read
        · rename_i d own
          obtain ⟨rfl, rfl⟩ := LocatedDirective.mk.inj (Except.ok.inj read)
          obtain ⟨keyword, takes⟩ := Grammar.reads_own_form (mem_of_lookup found) _ _ own
          refine ⟨call.args, ?_, takes⟩
          rw [keyword]
          exact (Schema.faithful_call r call).1 checked
  · rintro ⟨args, isCall, takes⟩
    obtain ⟨rule, found, own⟩ := Grammar.exists_reading takes
    simp only [ofRaw, (Schema.faithful_call r _).2 isCall, found, own]

/-- A single name of a medium is that of both sides, and without a location the place is unknown. -/
example : Directive.ofRaw (.object [("name", .string "MediumInterface"),
    ("args", .array [.string "fog"])] : Raw α) =
      .ok ⟨.mediumInterface "fog" "fog", .unknown⟩ := rfl

/-- A raw value denotes one directive at most. -/
theorem Raw.Denotes.unique {r : Raw α} {d d' : LocatedDirective α} (denotes : r.Denotes d)
    (denotes' : r.Denotes d') : d' = d := by
  rw [← Directive.ofRaw_eq_ok_iff] at denotes denotes'
  exact Except.ok.inj (denotes'.symm.trans denotes)

namespace Interpreter

variable {ε σ ν : Type}

/-- The same interpreter, which keeps a record of the directives that it is asked for. -/
def recorded (i : Interpreter α ε σ ν) : Interpreter α ε (σ × List (LocatedDirective α)) ν :=
  fun d loc s =>
    let o := (i d loc).run s.1
    ⟨o.result, (o.state, s.2 ++ [⟨d, loc⟩]), o.notices⟩

omit [Scalar α] in
theorem run_recorded (i : Interpreter α ε σ ν) (d : LocatedDirective α) (s : σ)
    (log : List (LocatedDirective α)) :
    (i.recorded d.directive d.loc).run (s, log) =
      ⟨((i d.directive d.loc).run s).result,
        (((i d.directive d.loc).run s).state, log ++ [d]),
        ((i d.directive d.loc).run s).notices⟩ := rfl

theorem runCall_of_ok (i : Interpreter α ε σ ν) {r : Raw α} {d : LocatedDirective α}
    (read : Directive.ofRaw r = .ok d) : i.runCall r = i.runDirective d := by
  rw [runCall, read]

theorem runCall_of_error (i : Interpreter α ε σ ν) {r : Raw α} {reason : CallError α}
    (read : Directive.ofRaw r = .error reason) : i.runCall r = Action.fail (.call reason) := by
  rw [runCall, read]

/-- A raw value either denotes one directive, and then every interpreter is asked for this directive,
once, and does with it what it does; or it denotes none, and then every interpreter fails without
being asked for any. -/
theorem accepts_exactly_the_grammar (r : Raw α) :
    (∃ d, r.Denotes d ∧ (∀ d', r.Denotes d' → d' = d) ∧
      ∀ {ε σ ν : Type} (i : Interpreter α ε σ ν) (s : σ) (log : List (LocatedDirective α)),
        (i.recorded.runCall r).run (s, log) =
          ⟨((i d.directive d.loc).run s).result.mapError .directive,
            (((i d.directive d.loc).run s).state, log ++ [d]),
            ((i d.directive d.loc).run s).notices⟩) ∨
    ((∀ d, ¬ r.Denotes d) ∧
      ∃ reason, ∀ {ε σ ν : Type} (i : Interpreter α ε σ ν) (s : σ)
          (log : List (LocatedDirective α)),
        (i.recorded.runCall r).run (s, log) = ⟨.error (.call reason), (s, log), []⟩) := by
  cases read : Directive.ofRaw r with
  | ok d =>
    have denotes := Directive.ofRaw_eq_ok_iff.1 read
    refine Or.inl ⟨d, denotes, fun _ => denotes.unique, fun i s log => ?_⟩
    rw [runCall_of_ok _ read, runDirective, Action.run_mapError, run_recorded]
  | error reason =>
    refine Or.inr ⟨fun d denotes => ?_, reason, fun i s log => ?_⟩
    · rw [Directive.ofRaw_eq_ok_iff.2 denotes] at read
      exact nomatch read
    · rw [runCall_of_error _ read, Action.run_fail]

end Interpreter

end SceneScript
