import Mathlib.Data.List.Forall2
import SceneScript.Call.Grammar

/-!
# What raw values stand for

The raw values that stand for a number, a text, a list, a location or a parameter, said without
reference to the schemas that check them: one relation between raw values and values for each of
them, with the fields that may be missing and what stands in their place.

A schema is faithful to a relation if it gives a value exactly for the raw values that stand for it
(`Schema.Faithful`). The schemas of calls are, for any raw value whatsoever.
-/

set_option autoImplicit false

namespace SceneScript

namespace Raw

variable {α β : Type}

/-- A number, which may be infinite. -/
def IsNumber [Scalar α] (r : Raw α) (x : α) : Prop :=
  r = .number x ∧ Scalar.isNaN x = false

/-- A whole number. -/
def IsInteger [Scalar α] (r : Raw α) (x : α) : Prop :=
  r.IsNumber x ∧ Scalar.isWhole x = true

/-- A text. -/
def IsText (r : Raw α) (s : String) : Prop :=
  r = .string s

/-- A text that is not empty. -/
def IsSomeText (r : Raw α) (s : String) : Prop :=
  r = .string s ∧ s ≠ ""

/-- A truth value. -/
def IsFlag (r : Raw α) (b : Bool) : Prop :=
  r = .bool b

/-- A list of items, in order. -/
def IsList (item : Raw α → β → Prop) (r : Raw α) (bs : List β) : Prop :=
  ∃ rs, r = .array rs ∧ List.Forall₂ item rs bs

/-- A list of whatever items. -/
def IsArray (r : Raw α) (rs : List (Raw α)) : Prop :=
  r = .array rs

/-- A value, or nothing, which stands for a default. -/
def OrDefault (default : β) (stands : Raw α → β → Prop) (r : Raw α) (b : β) : Prop :=
  r = .missing ∧ b = default ∨ r ≠ .missing ∧ stands r b

/-- A value, or nothing, which stands for none. -/
def OrNone (stands : Raw α → β → Prop) (r : Raw α) : Option β → Prop
  | none => r = .missing
  | some b => r ≠ .missing ∧ stands r b

variable [Scalar α]

/-- The fields of a location. -/
structure IsLocationOf (fields : List (String × Raw α)) (loc : Location α) : Prop where
  filename : (field fields "filename").IsText loc.filename
  line : (field fields "line").IsInteger loc.line
  column : (field fields "column").IsInteger loc.column

/-- A location. -/
def IsLocation (r : Raw α) (loc : Location α) : Prop :=
  ∃ fields, r = .object fields ∧ IsLocationOf fields loc

/-- A location, or nothing, which stands for the unknown one. -/
def IsPlace : Raw α → Location α → Prop :=
  OrDefault .unknown IsLocation

/-- The fields of a parameter; all but the type and the name may be missing. -/
structure IsParamOf (fields : List (String × Raw α)) (p : Param α) : Prop where
  type : (field fields "type").IsSomeText p.type
  name : (field fields "name").IsSomeText p.name
  loc : (field fields "loc").IsPlace p.loc
  numbers : (field fields "numbers").OrDefault [] (IsList IsNumber) p.numbers
  strings : (field fields "strings").OrDefault [] (IsList IsText) p.strings
  bools : (field fields "bools").OrDefault [] (IsList IsFlag) p.bools
  unusedAllowed : (field fields "mayBeUnused").OrDefault false IsFlag p.unusedAllowed
  colorSpace : (field fields "colorSpace").OrNone (fun r space => r.IsText space.name) p.colorSpace

/-- A parameter. -/
def IsParam (r : Raw α) (p : Param α) : Prop :=
  ∃ fields, r = .object fields ∧ IsParamOf fields p

/-- The fields of a call; there may be no arguments and no location. -/
structure IsCallOf (fields : List (String × Raw α)) (call : RawCall α) : Prop where
  name : (field fields "name").IsSomeText call.name
  args : (field fields "args").OrDefault [] IsArray call.args
  loc : (field fields "loc").IsPlace call.loc

/-- A call. -/
def IsCall (r : Raw α) (call : RawCall α) : Prop :=
  ∃ fields, r = .object fields ∧ IsCallOf fields call

end Raw

/-- What is looked up in a table stands in it. -/
theorem mem_of_lookup {β : Type} {table : List (String × β)} {key : String} {b : β}
    (found : table.lookup key = some b) : (key, b) ∈ table := by
  obtain ⟨before, after, rfl, -⟩ := List.lookup_eq_some_iff.1 found
  simp

/-! ## Checked values -/

namespace Checked

variable {β γ : Type} {b : Checked β} {x : β} {y : γ}

theorem map_eq_valid_iff {f : β → γ} : b.map f = valid y ↔ ∃ x, b = valid x ∧ f x = y := by
  cases b <;> simp [map]

/-- A valid whole has valid parts. -/
theorem ap_eq_valid_iff {f : Checked (β → γ)} :
    f.ap b = valid y ↔ ∃ g, f = valid g ∧ ∃ x, b = valid x ∧ g x = y := by
  cases f <;> cases b <;> simp [ap]

@[simp] theorem under_eq_valid_iff {step : PathStep} : b.under step = valid x ↔ b = valid x := by
  cases b <;> simp [under]

theorem after_eq_valid_iff {found : List Issue} :
    b.after found = valid x ↔ found = [] ∧ b = valid x := by
  cases found <;> simp [after]

@[simp] theorem problem_ne_valid {p : Problem} : (problem p : Checked β) ≠ valid x :=
  fun h => nomatch h

end Checked

/-! ## Schemas -/

namespace Schema

open Checked Raw

variable {α β γ : Type}

/-- The schema gives a value exactly for the raw values that stand for it. -/
def Faithful (s : Schema α β) (stands : Raw α → β → Prop) : Prop :=
  ∀ r b, s r = .valid b ↔ stands r b

variable {s : Schema α β} {stands : Raw α → β → Prop}

theorem faithful_anything : (anything (α := α)).Faithful fun r r' => r = r' := by
  intro r r'
  rw [anything, valid.injEq]

/-- Nothing is a value of its own, if there is a default. -/
theorem Faithful.orElse (faithful : s.Faithful stands) (default : β) :
    (orElse default s).Faithful (OrDefault default stands) := by
  intro r b
  cases r with
  | missing => simp [Schema.orElse, OrDefault, eq_comm]
  | _ => simpa [Schema.orElse, OrDefault] using faithful _ b

theorem Faithful.optional (faithful : s.Faithful stands) :
    (optional s).Faithful (OrNone stands) := by
  intro r b
  cases b with
  | none => cases r <;> simp [Schema.optional, OrNone, map_eq_valid_iff]
  | some b =>
    cases r with
    | missing => simp [Schema.optional, OrNone]
    | _ => simpa [Schema.optional, OrNone, map_eq_valid_iff] using faithful _ b

theorem Faithful.items (faithful : s.Faithful stands) {rs : List (Raw α)} {bs : List β}
    {place : Nat} : items s place rs = .valid bs ↔ List.Forall₂ stands rs bs := by
  induction rs generalizing place bs with
  | nil => simp [Schema.items, eq_comm]
  | cons r rest ih =>
    simp only [Schema.items, ap_eq_valid_iff, map_eq_valid_iff, under_eq_valid_iff, ih, faithful r]
    constructor
    · rintro ⟨_, ⟨b, first, rfl⟩, bs', others, rfl⟩
      exact .cons first others
    · intro both
      cases both with
      | cons first others => exact ⟨_, ⟨_, first, rfl⟩, _, others, rfl⟩

/-- A field of an object stands for a value if what it holds does. -/
theorem Faithful.field (faithful : s.Faithful stands) {name : String}
    {fields : List (String × Raw α)} {b : β} :
    field name s fields = .valid b ↔ stands (Raw.field fields name) b := by
  rw [Schema.field, under_eq_valid_iff, faithful]

variable [Scalar α]

theorem unwanted_ne_valid {wanted : String} {r : Raw α} {b : β} :
    (unwanted wanted r : Checked β) ≠ .valid b := by
  cases r <;> simp [unwanted]

theorem faithful_number : (number (α := α)).Faithful IsNumber := by
  intro r x
  cases r with
  | number y =>
    simp only [Schema.number, IsNumber, Raw.number.injEq]
    split <;> grind [problem_ne_valid]
  | _ => simp [number, IsNumber, unwanted_ne_valid]

theorem faithful_integer : (integer (α := α)).Faithful IsInteger := by
  intro r x
  cases r with
  | number y =>
    simp only [integer, IsInteger, IsNumber, Raw.number.injEq]
    split
    · grind [problem_ne_valid]
    · split <;> grind [problem_ne_valid]
  | _ => simp [integer, IsInteger, IsNumber, unwanted_ne_valid]

theorem faithful_text : (text (α := α)).Faithful IsText := by
  intro r s
  cases r <;> simp [text, IsText, unwanted_ne_valid]

theorem faithful_someText : (someText (α := α)).Faithful IsSomeText := by
  intro r s
  cases r with
  | string t =>
    simp only [someText, IsSomeText, Raw.string.injEq]
    split <;> grind [problem_ne_valid]
  | _ => simp [someText, IsSomeText, unwanted_ne_valid]

theorem faithful_boolean : (boolean (α := α)).Faithful IsFlag := by
  intro r b
  cases r <;> simp [boolean, IsFlag, unwanted_ne_valid]

/-- A word stands for the value that is spelled so. -/
theorem faithful_word {all : List β} {name : β → String}
    (found : ∀ b, (spelled all name).lookup (name b) = some b) :
    (word (α := α) (spelled all name)).Faithful fun r b => r.IsText (name b) := by
  intro r b
  cases r with
  | string s =>
    simp only [word, IsText, Raw.string.injEq]
    constructor
    · intro read
      split at read
      · rename_i c lookup
        obtain rfl : c = b := valid.inj read
        obtain ⟨b, -, same⟩ := List.mem_map.1 (mem_of_lookup lookup)
        obtain ⟨rfl, rfl⟩ := Prod.mk.inj same
        rfl
      · exact nomatch read
    · rintro rfl
      rw [found b]
  | _ => simp [word, IsText, unwanted_ne_valid]

theorem Faithful.listWith (faithful : s.Faithful stands) {faults : Nat → List Issue} :
    (listWith faults s).Faithful fun r bs =>
      ∃ rs, r = .array rs ∧ faults rs.length = [] ∧ List.Forall₂ stands rs bs := by
  intro r bs
  cases r with
  | array rs => simp [Schema.listWith, after_eq_valid_iff, faithful.items]
  | _ => simp [Schema.listWith, unwanted_ne_valid]

theorem Faithful.list (faithful : s.Faithful stands) : (list s).Faithful (IsList stands) := by
  intro r bs
  rw [Schema.list, faithful.listWith]
  simp [IsList]

theorem faithful_arguments : (list (anything (α := α))).Faithful IsArray := by
  intro r rs
  rw [faithful_anything.list, IsList, IsArray]
  constructor
  · rintro ⟨rs', rfl, same⟩
    rw [List.forall₂_eq_eq_eq] at same
    rw [same]
  · rintro rfl
    exact ⟨rs, rfl, List.forall₂_same.2 fun _ _ => rfl⟩

theorem object_eq_valid_iff {read : List (String × Raw α) → Checked β} {r : Raw α} {b : β} :
    object read r = .valid b ↔ ∃ fields, r = .object fields ∧ read fields = .valid b := by
  cases r <;> simp [object, unwanted_ne_valid]

/-- A schema of objects is faithful if its reading of the fields is. -/
theorem faithful_object {read : List (String × Raw α) → Checked β}
    {standsOf : List (String × Raw α) → β → Prop}
    (faithful : ∀ fields b, read fields = .valid b ↔ standsOf fields b) :
    (object read).Faithful fun r b => ∃ fields, r = .object fields ∧ standsOf fields b := by
  intro r b
  simp only [object_eq_valid_iff, faithful]

theorem faithful_location : (location (α := α)).Faithful IsLocation := by
  apply faithful_object
  intro fields loc
  constructor
  · intro read₃
    obtain ⟨_, read₂, column, hcolumn, rfl⟩ := ap_eq_valid_iff.1 read₃
    obtain ⟨_, read₁, line, hline, rfl⟩ := ap_eq_valid_iff.1 read₂
    obtain ⟨_, read₀, filename, hfilename, rfl⟩ := ap_eq_valid_iff.1 read₁
    obtain rfl := valid.inj read₀
    exact ⟨faithful_text.field.1 hfilename, faithful_integer.field.1 hline,
      faithful_integer.field.1 hcolumn⟩
  · rintro ⟨filename, line, column⟩
    rw [faithful_text.field.2 filename, faithful_integer.field.2 line,
      faithful_integer.field.2 column]
    rfl

theorem faithful_someLocation : (someLocation (α := α)).Faithful IsPlace :=
  faithful_location.orElse .unknown

theorem faithful_colorSpace :
    (optional (word (α := α) (spelled ColorSpace.all ColorSpace.name))).Faithful
      (OrNone fun r space => r.IsText space.name) :=
  (faithful_word fun space => by cases space <;> rfl).optional

theorem faithful_param : (param (α := α)).Faithful IsParam := by
  have lists {β : Type} {s : Schema α β} {stands : Raw α → β → Prop} (faithful : s.Faithful stands) :
      (orElse [] (list s)).Faithful (OrDefault [] (IsList stands)) := faithful.list.orElse []
  have flag : (orElse false (boolean (α := α))).Faithful (OrDefault false IsFlag) :=
    faithful_boolean.orElse false
  apply faithful_object
  intro fields p
  constructor
  · intro read₈
    obtain ⟨_, read₇, space, hspace, rfl⟩ := ap_eq_valid_iff.1 read₈
    obtain ⟨_, read₆, unused, hunused, rfl⟩ := ap_eq_valid_iff.1 read₇
    obtain ⟨_, read₅, bools, hbools, rfl⟩ := ap_eq_valid_iff.1 read₆
    obtain ⟨_, read₄, strings, hstrings, rfl⟩ := ap_eq_valid_iff.1 read₅
    obtain ⟨_, read₃, numbers, hnumbers, rfl⟩ := ap_eq_valid_iff.1 read₄
    obtain ⟨_, read₂, loc, hloc, rfl⟩ := ap_eq_valid_iff.1 read₃
    obtain ⟨_, read₁, name, hname, rfl⟩ := ap_eq_valid_iff.1 read₂
    obtain ⟨_, read₀, type, htype, rfl⟩ := ap_eq_valid_iff.1 read₁
    obtain rfl := valid.inj read₀
    exact ⟨faithful_someText.field.1 htype, faithful_someText.field.1 hname,
      faithful_someLocation.field.1 hloc, (lists faithful_number).field.1 hnumbers,
      (lists faithful_text).field.1 hstrings, (lists faithful_boolean).field.1 hbools,
      flag.field.1 hunused, faithful_colorSpace.field.1 hspace⟩
  · rintro ⟨type, name, loc, numbers, strings, bools, unused, space⟩
    rw [faithful_someText.field.2 type, faithful_someText.field.2 name,
      faithful_someLocation.field.2 loc, (lists faithful_number).field.2 numbers,
      (lists faithful_text).field.2 strings, (lists faithful_boolean).field.2 bools,
      flag.field.2 unused, faithful_colorSpace.field.2 space]
    rfl

theorem faithful_params : (params (α := α)).Faithful (IsList IsParam) :=
  faithful_param.list

theorem faithful_call : (call (α := α)).Faithful IsCall := by
  have arguments := faithful_arguments.orElse ([] : List (Raw α))
  apply faithful_object
  intro fields call
  constructor
  · intro read₃
    obtain ⟨_, read₂, loc, hloc, rfl⟩ := ap_eq_valid_iff.1 read₃
    obtain ⟨_, read₁, args, hargs, rfl⟩ := ap_eq_valid_iff.1 read₂
    obtain ⟨_, read₀, name, hname, rfl⟩ := ap_eq_valid_iff.1 read₁
    obtain rfl := valid.inj read₀
    exact ⟨faithful_someText.field.1 hname, arguments.field.1 hargs,
      faithful_someLocation.field.1 hloc⟩
  · rintro ⟨name, args, loc⟩
    rw [faithful_someText.field.2 name, arguments.field.2 args, faithful_someLocation.field.2 loc]
    rfl

end Schema

end SceneScript
