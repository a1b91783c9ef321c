import SceneScript.Proofs.Decimal.Reading
import SceneScript.Scalar.Double
import SceneScript.Settings

/-!
# Which options are accepted

The documented options switch something on or off, name a file or give the seed
(`RenderSettings.Sets`). They are accepted and do what is documented, and there is just one more key
that is accepted. It sets no documented field, and leaves a property beside them
(`accepted_options_iff`).
-/

set_option autoImplicit false

namespace SceneScript

open Decimal

/-! ## Keys -/

/-- In a table where no key stands twice, what is found is what stands there. -/
theorem lookup_eq_some_iff_mem {κ β : Type} [DecidableEq κ] {table : List (κ × β)}
    (apart : (table.map Prod.fst).Nodup) {key : κ} {b : β} :
    table.lookup key = some b ↔ (key, b) ∈ table := by
  induction table with
  | nil => simp
  | cons entry rest ih =>
    obtain ⟨first, value⟩ := entry
    obtain ⟨unique, apart⟩ := List.nodup_cons.1 apart
    rw [List.lookup_cons, List.mem_cons, Prod.mk.injEq]
    by_cases same : key = first
    · subst same
      have later : (key, b) ∉ rest := fun mem => unique (List.mem_map.2 ⟨_, mem, rfl⟩)
      simp [later, eq_comm]
    · simp [beq_false_of_ne same, same, ih apart]

theorem OptionTarget.ofName?_eq_some_iff {name : String} {target : OptionTarget} :
    ofName? name = some target ↔ (optionKey name, target) ∈ optionTargets :=
  lookup_eq_some_iff_mem (by decide +kernel)

/-! ## Values -/

theorem readBoolean?_eq_some_iff {value : String} {on : Bool} :
    readBoolean? value = some on ↔ value = toString on := by
  rw [readBoolean?]
  split
  · rename_i true
    subst true
    cases on <;> decide
  · split
    · rename_i false
      subst false
      cases on <;> decide
    · rename_i notTrue notFalse
      cases on
      · exact iff_of_false nofun notFalse
      · exact iff_of_false nofun notTrue

/-- A quoted text has at least one character between its quotation marks. -/
theorem readQuoted?_eq_some_iff {value file : String} :
    readQuoted? value = some file ↔ file ≠ "" ∧ value = "\"" ++ file ++ "\"" := by
  have quoted_iff : value = "\"" ++ file ++ "\"" ↔ value.toList = '"' :: (file.toList ++ ['"']) := by
    rw [← String.toList_inj]
    simp
  rw [readQuoted?, quoted_iff]
  constructor
  · intro read
    split at read
    · rename_i rest opened
      split at read
      · rename_i closed
        obtain ⟨between, rfl⟩ := List.getLast?_eq_some_iff.1 closed.1
        obtain rfl : String.ofList between = file := by simpa using read
        refine ⟨fun none => ?_, by simp [opened]⟩
        have short := closed.2
        rw [String.ofList_eq_empty_iff.1 none] at short
        simp at short
      · exact nomatch read
    · exact nomatch read
  · rintro ⟨some, quoted⟩
    have two : 1 ≤ file.toList.length := by
      rw [Nat.one_le_iff_ne_zero, ne_eq, List.length_eq_zero_iff, String.toList_eq_nil_iff]
      exact some
    rw [quoted]
    simp [two]

theorem readDigits?_eq_some_iff {digits : List Char} {n : Nat} :
    readDigits? digits = some n ↔ digits ≠ [] ∧ AllDigits digits ∧ readDigits digits = n := by
  have all : AllDigits digits ↔ digits.all Char.isDigit = true := List.all_eq_true.symm
  rw [readDigits?, Option.ite_none_right_eq_some, Option.some_inj, all, and_assoc]
  rfl

namespace RenderSettings

variable {α : Type} [Scalar α]

/-- The scalar that a text stands for: digits, at least one, behind a sign or without one. -/
inductive Denotes : String → α → Prop
  | plain {digits : List Char} : digits ≠ [] → AllDigits digits →
    Denotes (String.ofList digits) (Scalar.ofNat (readDigits digits))
  | plus {digits : List Char} : digits ≠ [] → AllDigits digits →
    Denotes (String.ofList ('+' :: digits)) (Scalar.ofNat (readDigits digits))
  | minus {digits : List Char} : digits ≠ [] → AllDigits digits →
    Denotes (String.ofList ('-' :: digits)) (-Scalar.ofNat (readDigits digits))

theorem readInteger?_eq_some_iff {value : String} {x : α} :
    readInteger? value = some x ↔ Denotes value x := by
  rw [readInteger?]
  constructor
  · intro read
    rw [← value.ofList_toList]
    split at read
    · rename_i digits signed
      obtain ⟨n, digital, rfl⟩ := Option.map_eq_some_iff.1 read
      obtain ⟨some, all, rfl⟩ := readDigits?_eq_some_iff.1 digital
      rw [signed]
      exact .plus some all
    · rename_i digits signed
      obtain ⟨n, digital, rfl⟩ := Option.map_eq_some_iff.1 read
      obtain ⟨some, all, rfl⟩ := readDigits?_eq_some_iff.1 digital
      rw [signed]
      exact .minus some all
    · obtain ⟨n, digital, rfl⟩ := Option.map_eq_some_iff.1 read
      obtain ⟨some, all, rfl⟩ := readDigits?_eq_some_iff.1 digital
      exact .plain some all
  · intro denotes
    cases denotes with
    | @plain digits some all =>
      -- no digit is a sign
      have digital := readDigits?_eq_some_iff.2 ⟨some, all, rfl⟩
      rw [String.toList_ofList]
      split
      · exact absurd (all '+' List.mem_cons_self) (by decide)
      · exact absurd (all '-' List.mem_cons_self) (by decide)
      · exact congrArg (Option.map _) digital
    | plus some all =>
      rw [String.toList_ofList]
      exact congrArg (Option.map _) (readDigits?_eq_some_iff.2 ⟨some, all, rfl⟩)
    | minus some all =>
      rw [String.toList_ofList]
      exact congrArg (Option.map _) (readDigits?_eq_some_iff.2 ⟨some, all, rfl⟩)

/-- The documented options: an option with this key and this value makes settings of others. -/
inductive Sets (s : RenderSettings α) : String → String → RenderSettings α → Prop
  | noPixelJitter (on : Bool) :
    Sets s "disablepixeljitter" (toString on) { s with noPixelJitter := on }
  | noWavelengthJitter (on : Bool) :
    Sets s "disablewavelengthjitter" (toString on) { s with noWavelengthJitter := on }
  | allDiffuse (on : Bool) :
    Sets s "forcediffuse" (toString on) { s with allDiffuse := on }
  | pixelStatistics (on : Bool) :
    Sets s "pixelstats" (toString on) { s with pixelStatistics := on }
  | referenceImage {file : String} : file ≠ "" →
    Sets s "msereferenceimage" ("\"" ++ file ++ "\"") { s with referenceImage := some file }
  | referenceOutput {file : String} : file ≠ "" →
    Sets s "msereferenceout" ("\"" ++ file ++ "\"") { s with referenceOutput := some file }
  | seed {value : String} {x : α} : Denotes value x → Sets s "seed" value { s with seed := x }

variable {s s' : RenderSettings α} {name value : String}

theorem Sets.ne_constructor {key : String} (sets : Sets s key value s') : key ≠ "constructor" := by
  cases sets <;> decide

/-- What an option of a target does: its value is one for the target, and the target is set. -/
def Effect (s : RenderSettings α) : OptionTarget → String → RenderSettings α → Prop
  | .switch which, value, s' => ∃ on : Bool, value = toString on ∧ s' = s.setSwitch on which
  | .file which, value, s' =>
    ∃ file, (file ≠ "" ∧ value = "\"" ++ file ++ "\"") ∧ s' = s.setFile file which
  | .seed, value, s' => ∃ x, Denotes value x ∧ s' = { s with seed := x }

theorem apply_eq_ok_iff : s.apply name value = .ok s' ↔
    ∃ target, (optionKey name, target) ∈ optionTargets ∧ s.Effect target value s' := by
  simp only [← OptionTarget.ofName?_eq_some_iff, apply]
  cases OptionTarget.ofName? name with
  | none => simp
  | some target =>
    simp only [Option.some.injEq, exists_eq_left']
    cases target with
    | switch which =>
      simp only [Effect, ← readBoolean?_eq_some_iff]
      cases readBoolean? value <;> simp [eq_comm]
    | file which =>
      simp only [Effect, ← readQuoted?_eq_some_iff]
      cases readQuoted? value <;> simp [eq_comm]
    | seed =>
      simp only [Effect, ← readInteger?_eq_some_iff]
      cases (readInteger? value : Option α) <;> simp [eq_comm]

/-- The options that are accepted are the documented ones, with the values and the effects that are
documented, and beside them "constructor" with a truth value, which leaves all documented fields as
they are and keeps its value in a property beside them. All others are refused. -/
theorem accepted_options_iff (s : RenderSettings α) (name value : String) (s' : RenderSettings α) :
    s.apply name value = .ok s' ↔ Sets s (optionKey name) value s' ∨
      (optionKey name = "constructor" ∧ ∃ on : Bool, value = toString on ∧
        s' = { s with stray := some on }) := by
  rw [apply_eq_ok_iff]
  generalize optionKey name = key
  constructor
  · rintro ⟨target, mem, effect⟩
    simp only [optionTargets, List.mem_cons, Prod.mk.injEq, List.not_mem_nil, or_false] at mem
    rcases mem with ⟨rfl, rfl⟩ | ⟨rfl, rfl⟩ | ⟨rfl, rfl⟩ | ⟨rfl, rfl⟩ | ⟨rfl, rfl⟩ | ⟨rfl, rfl⟩ |
      ⟨rfl, rfl⟩ | ⟨rfl, rfl⟩
    case inr.inr.inr.inr.inl =>
      exact Or.inr ⟨rfl, effect⟩
    all_goals left
    · obtain ⟨on, rfl, rfl⟩ := effect
      exact .noPixelJitter on
    · obtain ⟨on, rfl, rfl⟩ := effect
      exact .noWavelengthJitter on
    · obtain ⟨on, rfl, rfl⟩ := effect
      exact .allDiffuse on
    · obtain ⟨on, rfl, rfl⟩ := effect
      exact .pixelStatistics on
    · obtain ⟨file, ⟨some, rfl⟩, rfl⟩ := effect
      exact .referenceImage some
    · obtain ⟨file, ⟨some, rfl⟩, rfl⟩ := effect
      exact .referenceOutput some
    · obtain ⟨x, denotes, rfl⟩ := effect
      exact .seed denotes
  · rintro (sets | ⟨rfl, stray⟩)
    · cases sets with
      | noPixelJitter on =>
        exact ⟨.switch .noPixelJitter, by simp [optionTargets], on, rfl, rfl⟩
      | noWavelengthJitter on =>
        exact ⟨.switch .noWavelengthJitter, by simp [optionTargets], on, rfl, rfl⟩
      | allDiffuse on => exact ⟨.switch .allDiffuse, by simp [optionTargets], on, rfl, rfl⟩
      | pixelStatistics on =>
        exact ⟨.switch .pixelStatistics, by simp [optionTargets], on, rfl, rfl⟩
      | referenceImage some =>
        exact ⟨.file .image, by simp [optionTargets], _, ⟨some, rfl⟩, rfl⟩
      | referenceOutput some =>
        exact ⟨.file .output, by simp [optionTargets], _, ⟨some, rfl⟩, rfl⟩
      | seed denotes => exact ⟨.seed, by simp [optionTargets], _, denotes, rfl⟩
    · exact ⟨.switch .stray, by simp [optionTargets], stray⟩

/-- The word "constructor" is no documented option, but it is accepted. -/
theorem constructor_accepted :
    (defaults : RenderSettings Float).apply "constructor" "true" =
        .ok { defaults with stray := some true } ∧
      ∀ s', ¬ Sets (defaults : RenderSettings Float) (optionKey "constructor") "true" s' := by
  have key : optionKey "constructor" = "constructor" := by decide +kernel
  rw [key]
  constructor
  · refine apply_eq_ok_iff.2 ⟨.switch .stray, ?_, true, rfl, rfl⟩
    rw [key]
    simp [optionTargets]
  · exact fun s' sets => sets.ne_constructor rfl

end RenderSettings

end SceneScript
