import SceneScript.Proofs.Call.Readings
import SceneScript.Proofs.Scalar.Rounding
import SceneScript.Proofs.Settings.AcceptedOptions

/-!
# Settings and their schema

Settings made by the schema can be handed to the schema again, which then gives the same settings
(`Fits`). Options change settings without asking the schema. What they leave fits the schema too,
but for two things: a seed with so many digits that it is infinite as a double, and the property
that an option "constructor" leaves beside the settings, which the schema drops
(`settings_with_options_fit_iff`).
-/

set_option autoImplicit false

namespace SceneScript

open Float.Model Float.Model.UnpackedFloat Decimal Rounding

/-! ## What raw values stand for settings -/

namespace Raw

variable {α : Type} [Scalar α]

/-- The fields of settings, all of which may be missing. Other fields count for nothing. -/
structure IsSettingsOf (fields : List (String × Raw α)) (s : RenderSettings α) : Prop where
  noPixelJitter : (field fields "disablePixelJitter").OrDefault false IsFlag s.noPixelJitter
  noWavelengthJitter :
    (field fields "disableWavelengthJitter").OrDefault false IsFlag s.noWavelengthJitter
  allDiffuse : (field fields "forceDiffuse").OrDefault false IsFlag s.allDiffuse
  pixelStatistics : (field fields "recordPixelStatistics").OrDefault false IsFlag s.pixelStatistics
  seed : (field fields "seed").OrDefault 0 IsInteger s.seed
  referenceImage : (field fields "mseReferenceImage").OrNone IsText s.referenceImage
  referenceOutput : (field fields "mseReferenceOutput").OrNone IsText s.referenceOutput
  quiet : (field fields "quiet").OrDefault false IsFlag s.quiet
  stray : s.stray = none

/-- Settings. -/
def IsSettings (r : Raw α) (s : RenderSettings α) : Prop :=
  ∃ fields, r = .object fields ∧ IsSettingsOf fields s

end Raw

namespace Schema

open Checked Raw

theorem faithful_renderSettings {α : Type} [Scalar α] :
    (renderSettings (α := α)).Faithful IsSettings := by
  have flag : (orElse false (boolean (α := α))).Faithful (OrDefault false IsFlag) :=
    faithful_boolean.orElse false
  have seed : (orElse 0 (integer (α := α))).Faithful (OrDefault 0 IsInteger) :=
    faithful_integer.orElse 0
  have file : (optional (text (α := α))).Faithful (OrNone IsText) := faithful_text.optional
  apply faithful_object
  intro fields s
  constructor
  · intro read₈
    obtain ⟨_, read₇, quiet, hquiet, rfl⟩ := ap_eq_valid_iff.1 read₈
    obtain ⟨_, read₆, output, houtput, rfl⟩ := ap_eq_valid_iff.1 read₇
    obtain ⟨_, read₅, image, himage, rfl⟩ := ap_eq_valid_iff.1 read₆
    obtain ⟨_, read₄, x, hseed, rfl⟩ := ap_eq_valid_iff.1 read₅
    obtain ⟨_, read₃, statistics, hstatistics, rfl⟩ := ap_eq_valid_iff.1 read₄
    obtain ⟨_, read₂, diffuse, hdiffuse, rfl⟩ := ap_eq_valid_iff.1 read₃
    obtain ⟨_, read₁, wavelength, hwavelength, rfl⟩ := ap_eq_valid_iff.1 read₂
    obtain ⟨_, read₀, pixel, hpixel, rfl⟩ := ap_eq_valid_iff.1 read₁
    obtain rfl := valid.inj read₀
    exact ⟨flag.field.1 hpixel, flag.field.1 hwavelength, flag.field.1 hdiffuse,
      flag.field.1 hstatistics, seed.field.1 hseed, file.field.1 himage, file.field.1 houtput,
      flag.field.1 hquiet, rfl⟩
  · rintro ⟨pixel, wavelength, diffuse, statistics, integer, image, output, quiet, stray⟩
    have whole : RenderSettings.ofFields s.noPixelJitter s.noWavelengthJitter s.allDiffuse
        s.pixelStatistics s.seed s.referenceImage s.referenceOutput s.quiet = s := by
      rw [RenderSettings.ofFields, ← stray]
    rw [flag.field.2 pixel, flag.field.2 wavelength, flag.field.2 diffuse,
      flag.field.2 statistics, seed.field.2 integer, file.field.2 image, file.field.2 output,
      flag.field.2 quiet]
    exact congrArg Checked.valid whole

end Schema

namespace RenderSettings

/-! ## Settings as raw values -/

section Fitting

open Raw

variable {α : Type} {s : RenderSettings α}

/-- The field of a value that may be absent. -/
def fieldIfAny (name : String) (value : Option (Raw α)) : List (String × Raw α) :=
  (value.map (Prod.mk name)).toList

/-- The fields of settings; a file that is not named has no field. The property that is no setting
has one if it is there. -/
def rawFields (s : RenderSettings α) : List (String × Raw α) :=
  [("disablePixelJitter", .bool s.noPixelJitter),
   ("disableWavelengthJitter", .bool s.noWavelengthJitter),
   ("forceDiffuse", .bool s.allDiffuse),
   ("recordPixelStatistics", .bool s.pixelStatistics),
   ("seed", .number s.seed),
   ("quiet", .bool s.quiet)] ++
  fieldIfAny "mseReferenceImage" (s.referenceImage.map .string) ++
  fieldIfAny "mseReferenceOutput" (s.referenceOutput.map .string) ++
  fieldIfAny strayName (s.stray.map .bool)

theorem field_referenceImage : field s.rawFields "mseReferenceImage" =
    (s.referenceImage.map .string).getD .missing := by
  rw [rawFields]
  cases s.referenceImage <;> cases s.referenceOutput <;> cases s.stray <;> rfl

theorem field_referenceOutput : field s.rawFields "mseReferenceOutput" =
    (s.referenceOutput.map .string).getD .missing := by
  rw [rawFields]
  cases s.referenceImage <;> cases s.referenceOutput <;> cases s.stray <;> rfl

theorem text_orNone (file : Option String) :
    ((file.map .string).getD .missing : Raw α).OrNone IsText file := by
  cases file with
  | none => rfl
  | some file => exact ⟨nofun, rfl⟩

variable [Scalar α]

/-- The schema accepts the settings and does not change them. -/
def Fits (s : RenderSettings α) : Prop :=
  Schema.renderSettings (.object s.rawFields) = .valid s

/-- Only the seed, and a property that is no setting, can keep settings from fitting their
schema. -/
theorem fits_iff : s.Fits ↔
    s.stray = none ∧ Scalar.isNaN s.seed = false ∧ Scalar.isWhole s.seed = true := by
  have flag (b : Bool) : (Raw.bool b : Raw α).OrDefault false IsFlag b := Or.inr ⟨nofun, rfl⟩
  have settings : s.Fits ↔ IsSettings (.object s.rawFields) s := Schema.faithful_renderSettings _ _
  rw [settings]
  constructor
  · rintro ⟨fields, object, parts⟩
    obtain rfl := Raw.object.inj object
    obtain ⟨missing, -⟩ | ⟨-, ⟨-, known⟩, whole⟩ := parts.seed
    · exact nomatch missing
    · exact ⟨parts.stray, known, whole⟩
  · rintro ⟨stray, known, whole⟩
    refine ⟨_, rfl, flag _, flag _, flag _, flag _, Or.inr ⟨nofun, ⟨rfl, known⟩, whole⟩, ?_, ?_,
      flag _, stray⟩
    · rw [field_referenceImage]
      exact text_orNone _
    · rw [field_referenceOutput]
      exact text_orNone _

end Fitting

/-! ## Settings after some options -/

section Run

variable {α : Type} {s s' : RenderSettings α} {name value : String} {options : List (String × String)}

@[simp] theorem seed_setSwitch {on : Bool} {which : Switch} :
    (s.setSwitch on which).seed = s.seed := by
  cases which <;> rfl

@[simp] theorem seed_setFile {file : String} {which : ReferenceFile} :
    (s.setFile file which).seed = s.seed := by
  cases which <;> rfl

@[simp] theorem stray_setFile {file : String} {which : ReferenceFile} :
    (s.setFile file which).stray = s.stray := by
  cases which <;> rfl

theorem stray_setSwitch_eq_none_iff {on : Bool} {which : Switch} :
    (s.setSwitch on which).stray = none ↔ s.stray = none ∧ which ≠ .stray := by
  cases which <;> simp [setSwitch]

variable [Scalar α]

/-- The settings after some options, each a name and a value; all of them must be accepted. -/
def applyAll (s : RenderSettings α) (options : List (String × String)) :
    Except OptionError (RenderSettings α) :=
  options.foldlM (fun s option => s.apply option.1 option.2) s

theorem applyAll_cons_eq_ok_iff : s.applyAll ((name, value) :: options) = .ok s' ↔
    ∃ between, s.apply name value = .ok between ∧ between.applyAll options = .ok s' := by
  rw [applyAll, List.foldlM_cons]
  cases s.apply name value <;> simp [applyAll, bind, Except.bind]

/-- The value of the last option that gives the seed. -/
def lastSeed? (options : List (String × String)) : Option String :=
  (options.reverse.find? fun option => optionKey option.1 = "seed").map Prod.snd

theorem lastSeed?_cons : lastSeed? ((name, value) :: options) =
    (lastSeed? options).or (if optionKey name = "seed" then some value else none) := by
  rw [lastSeed?, lastSeed?, List.reverse_cons, List.find?_append, List.find?_singleton,
    Option.map_or]
  split <;> simp_all

/-- What an option does to the seed. -/
theorem seed_of_apply (accepted : s.apply name value = .ok s') :
    optionKey name = "seed" ∧ Denotes value s'.seed ∨
      optionKey name ≠ "seed" ∧ s'.seed = s.seed := by
  obtain ⟨target, mem, effect⟩ := apply_eq_ok_iff.1 accepted
  cases target with
  | switch which =>
    obtain ⟨on, -, rfl⟩ := effect
    refine Or.inr ⟨?_, seed_setSwitch⟩
    intro key
    simp [optionTargets, key] at mem
  | file which =>
    obtain ⟨file, -, rfl⟩ := effect
    refine Or.inr ⟨?_, seed_setFile⟩
    intro key
    simp [optionTargets, key] at mem
  | seed =>
    obtain ⟨x, denotes, rfl⟩ := effect
    exact Or.inl ⟨by simpa [optionTargets] using mem, denotes⟩

/-- There is no property beside the settings after an option if there was none before it, and the
option does not leave one. -/
theorem stray_of_apply (accepted : s.apply name value = .ok s') :
    s'.stray = none ↔ s.stray = none ∧ optionKey name ≠ "constructor" := by
  obtain ⟨target, mem, effect⟩ := apply_eq_ok_iff.1 accepted
  cases target with
  | switch which =>
    obtain ⟨on, -, rfl⟩ := effect
    have key : which = .stray ↔ optionKey name = "constructor" := by
      simp only [optionTargets, List.mem_cons, Prod.mk.injEq, OptionTarget.switch.injEq,
        reduceCtorEq, and_false, List.not_mem_nil, or_false] at mem
      rcases mem with ⟨key, rfl⟩ | ⟨key, rfl⟩ | ⟨key, rfl⟩ | ⟨key, rfl⟩ | ⟨key, rfl⟩ <;> simp [key]
    rw [stray_setSwitch_eq_none_iff, ne_eq, ne_eq, key]
  | file which =>
    obtain ⟨file, -, rfl⟩ := effect
    have other : optionKey name ≠ "constructor" := by
      intro key
      simp [optionTargets, key] at mem
    rw [stray_setFile, and_iff_left other]
  | seed =>
    obtain ⟨x, -, rfl⟩ := effect
    have other : optionKey name ≠ "constructor" := by
      intro key
      simp [optionTargets, key] at mem
    exact (and_iff_left other).symm

/-- No option takes the property away again that one of them left. -/
theorem stray_of_applyAll (accepted : s.applyAll options = .ok s') :
    s'.stray = none ↔ s.stray = none ∧ ∀ o ∈ options, optionKey o.1 ≠ "constructor" := by
  induction options generalizing s with
  | nil =>
    obtain rfl := Except.ok.inj accepted
    simp
  | cons option rest ih =>
    obtain ⟨between, first, others⟩ := applyAll_cons_eq_ok_iff.1 accepted
    rw [ih others, stray_of_apply first, and_assoc, List.forall_mem_cons]

/-- The seed is the one that was given last. -/
theorem seed_of_applyAll (accepted : s.applyAll options = .ok s') :
    (lastSeed? options = none → s'.seed = s.seed) ∧
      ∀ value, lastSeed? options = some value → Denotes value s'.seed := by
  induction options generalizing s with
  | nil =>
    obtain rfl := Except.ok.inj accepted
    exact ⟨fun _ => rfl, nofun⟩
  | cons option rest ih =>
    obtain ⟨name, value⟩ := option
    obtain ⟨between, first, others⟩ := applyAll_cons_eq_ok_iff.1 accepted
    obtain ⟨unchanged, changed⟩ := ih others
    rw [lastSeed?_cons]
    -- the first option counts only if no seed is given after it
    cases last : lastSeed? rest with
    | some later =>
      refine ⟨nofun, ?_⟩
      rintro _ ⟨⟩
      exact changed later last
    | none =>
      have kept := unchanged last
      rw [Option.none_or]
      rcases seed_of_apply first with ⟨key, denotes⟩ | ⟨other, same⟩
      · rw [if_pos key, kept]
        refine ⟨nofun, ?_⟩
        rintro _ ⟨⟩
        exact denotes
      · rw [if_neg other]
        exact ⟨fun _ => kept.trans same, nofun⟩

end Run

/-! ## Seeds as doubles -/

/-- The integer that a text stands for, as its sign and its magnitude. -/
inductive Spells : String → Sign → Nat → Prop
  | plain {digits : List Char} : digits ≠ [] → AllDigits digits →
    Spells (String.ofList digits) .positive (readDigits digits)
  | plus {digits : List Char} : digits ≠ [] → AllDigits digits →
    Spells (String.ofList ('+' :: digits)) .positive (readDigits digits)
  | minus {digits : List Char} : digits ≠ [] → AllDigits digits →
    Spells (String.ofList ('-' :: digits)) .negative (readDigits digits)

/-- The sign is that of the first character, and the magnitude is that of the digits. -/
theorem Spells.eq {value : String} {sign : Sign} {n : Nat} (spells : Spells value sign n) :
    sign = (if value.toList.head? = some '-' then .negative else .positive) ∧
      n = readDigits (value.toList.filter Char.isDigit) := by
  cases spells with
  | @plain digits some all =>
    have first : digits.head? ≠ Option.some '-' := by
      intro negative
      exact absurd (all '-' (List.mem_of_head? negative)) (by decide)
    rw [String.toList_ofList, if_neg first, List.filter_eq_self.2 all]
    exact ⟨rfl, rfl⟩
  | plus some all =>
    rw [String.toList_ofList, List.filter_cons_of_neg (by decide), List.filter_eq_self.2 all]
    exact ⟨rfl, rfl⟩
  | minus some all =>
    rw [String.toList_ofList, List.filter_cons_of_neg (by decide), List.filter_eq_self.2 all]
    exact ⟨rfl, rfl⟩

/-- A text stands for one integer at most. -/
theorem Spells.unique {value : String} {sign sign' : Sign} {n n' : Nat}
    (spells : Spells value sign n) (spells' : Spells value sign' n') : sign = sign' ∧ n = n' :=
  ⟨spells.eq.1.trans spells'.eq.1.symm, spells.eq.2.trans spells'.eq.2.symm⟩

/-- A text denotes the double made of the integer that it stands for. -/
theorem Denotes.exists_spells {value : String} {x : Float} (denotes : Denotes value x) :
    ∃ sign n, Spells value sign n ∧ x = signed sign n := by
  cases denotes with
  | plain some digits => exact ⟨_, _, .plain some digits, rfl⟩
  | plus some digits => exact ⟨_, _, .plus some digits, rfl⟩
  | minus some digits => exact ⟨_, _, .minus some digits, rfl⟩

section Doubles

variable {start s : RenderSettings Float} {options : List (String × String)}

theorem double_fits_iff : s.Fits ↔ s.stray = none ∧ Scalar.isWhole s.seed = true :=
  fits_iff.trans (and_congr_right fun _ =>
    ⟨And.right, fun whole => ⟨isNaN_of_isWhole whole, whole⟩⟩)

theorem isWhole_seed_defaults : Scalar.isWhole (defaults : RenderSettings Float).seed = true := by
  have zero : (defaults : RenderSettings Float).seed = signed .positive 0 := rfl
  rw [zero, isWhole_signed]
  exact lt_overflow 0 Nat.one_pos (by decide)

/-- Settings made by the schema fit it. -/
theorem fits_of_ofRaw {r : Raw Float} (created : ofRaw r = .valid start) : start.Fits := by
  rw [double_fits_iff]
  obtain ⟨-, rfl⟩ | ⟨-, fields, rfl, parts⟩ :=
    (Schema.faithful_renderSettings.orElse .defaults r start).1 created
  · exact ⟨rfl, isWhole_seed_defaults⟩
  · refine ⟨parts.stray, ?_⟩
    obtain ⟨-, none⟩ | ⟨-, -, whole⟩ := parts.seed
    · rw [none]
      exact isWhole_seed_defaults
    · exact whole

/-- The double is the integer. -/
def IsExactly (x : Float) (i : Int) : Prop :=
  Scalar.isWhole x = true ∧ Scalar.wholePart? x = some i

/-- Settings made by the schema still fit it after any options that are accepted, unless
"constructor" is one of them, or the seed that was given last stands for an integer beyond the
doubles. The seed is a finite integer unless it was given so. If no seed was given, it is what it
was; and if the one that was given last stands for an integer that is a double, the seed is that
integer. -/
theorem settings_with_options_fit_iff {r : Raw Float} (created : ofRaw r = .valid start)
    (accepted : start.applyAll options = .ok s) :
    (s.Fits ↔ (∀ o ∈ options, optionKey o.1 ≠ "constructor") ∧
        ∀ value sign n, lastSeed? options = some value → Spells value sign n → n < overflow) ∧
      (lastSeed? options = none → s.seed = start.seed ∧ Scalar.isWhole s.seed = true) ∧
      ∀ value, lastSeed? options = some value → ∃ sign n, Spells value sign n ∧
        (Scalar.isWhole s.seed = true ↔ n < overflow) ∧
        ((∃ x, IsExactly x (sign.apply n)) → IsExactly s.seed (sign.apply n)) := by
  obtain ⟨unchanged, changed⟩ := seed_of_applyAll accepted
  obtain ⟨clean, whole⟩ := double_fits_iff.1 (fits_of_ofRaw created)
  have given (value : String) (last : lastSeed? options = some value) : ∃ sign n,
      Spells value sign n ∧ s.seed = signed sign n := (changed value last).exists_spells
  refine ⟨?_, fun last => ?_, fun value last => ?_⟩
  · rw [double_fits_iff, stray_of_applyAll accepted, and_iff_right clean]
    refine and_congr_right fun _ => ?_
    cases last : lastSeed? options with
    | none =>
      rw [unchanged last]
      exact iff_of_true whole nofun
    | some value =>
      obtain ⟨sign, n, spells, seed⟩ := given value last
      rw [seed, isWhole_signed]
      constructor
      · rintro bounded _ sign' n' ⟨⟩ spells'
        exact (spells.unique spells').2 ▸ bounded
      · exact fun bounded => bounded value sign n rfl spells
  · exact ⟨unchanged last, unchanged last ▸ whole⟩
  · obtain ⟨sign, n, spells, seed⟩ := given value last
    refine ⟨sign, n, spells, ?_, ?_⟩
    · rw [seed, isWhole_signed]
    · rintro ⟨x, -, exact⟩
      obtain ⟨bounded, read⟩ := wholePart?_signed exact
      rw [seed]
      exact ⟨isWhole_signed.2 bounded, read⟩

/-- With two seeds, of which the second one counts; and with the option that leaves a property
beside the settings. -/
theorem settings_with_options_fit_iff_two_seeds :
    ∃ start s t : RenderSettings Float, ofRaw .missing = .valid start ∧
      start.applyAll [("seed", "7"), ("Seed", "-42"), ("pixelstats", "true")] = .ok s ∧
      s.Fits ∧ IsExactly s.seed (-42) ∧
      start.applyAll [("constructor", "true")] = .ok t ∧ t.seed = start.seed ∧ ¬ t.Fits := by
  let start : RenderSettings Float := defaults
  let s : RenderSettings Float := { start with seed := signed .negative 42, pixelStatistics := true }
  let t : RenderSettings Float := { start with stray := some true }
  have created : ofRaw (.missing : Raw Float) = .valid start := rfl
  have seven : Denotes "7" (signed .positive 7) := .plain (List.cons_ne_nil '7' []) (by decide)
  have negative : Denotes "-42" (signed .negative 42) :=
    .minus (List.cons_ne_nil '4' ['2']) (by decide)
  have accepted :
      start.applyAll [("seed", "7"), ("Seed", "-42"), ("pixelstats", "true")] = .ok s := by
    have first : (optionKey "seed", OptionTarget.seed) ∈ optionTargets := by decide +kernel
    have second : (optionKey "Seed", OptionTarget.seed) ∈ optionTargets := by decide +kernel
    have third : (optionKey "pixelstats", OptionTarget.switch .pixelStatistics) ∈ optionTargets := by
      decide +kernel
    rw [applyAll_cons_eq_ok_iff]
    refine ⟨_, apply_eq_ok_iff.2 ⟨_, first, _, seven, rfl⟩, ?_⟩
    rw [applyAll_cons_eq_ok_iff]
    refine ⟨_, apply_eq_ok_iff.2 ⟨_, second, _, negative, rfl⟩, ?_⟩
    rw [applyAll_cons_eq_ok_iff]
    exact ⟨_, apply_eq_ok_iff.2 ⟨_, third, true, rfl, rfl⟩, rfl⟩
  have last : lastSeed? [("seed", "7"), ("Seed", "-42"), ("pixelstats", "true")] = some "-42" := by
    decide +kernel
  obtain ⟨fits, -, given⟩ := settings_with_options_fit_iff created accepted
  obtain ⟨sign, n, spells, -, exact⟩ := given "-42" last
  have mine : Spells "-42" .negative 42 := .minus (List.cons_ne_nil '4' ['2']) (by decide)
  obtain ⟨rfl, rfl⟩ := spells.unique mine
  have double : IsExactly (Float.ofBits 0xC045000000000000) (Sign.negative.apply 42) :=
    ⟨by decide +kernel, by decide +kernel⟩
  have documented : ∀ o ∈ [("seed", "7"), ("Seed", "-42"), ("pixelstats", "true")],
      optionKey o.1 ≠ "constructor" := by
    decide +kernel
  have bounded : ∀ value sign n, lastSeed? [("seed", "7"), ("Seed", "-42"), ("pixelstats", "true")] =
      some value → Spells value sign n → n < overflow := by
    intro value sign n here spells'
    obtain rfl := Option.some.inj (last.symm.trans here)
    exact (spells'.unique mine).2 ▸ lt_overflow 6 (by decide) (by decide)
  have key : optionKey "constructor" = "constructor" := by decide +kernel
  have strays : start.applyAll [("constructor", "true")] = .ok t := by
    have known : (optionKey "constructor", OptionTarget.switch .stray) ∈ optionTargets := by
      rw [key]
      simp [optionTargets]
    rw [applyAll_cons_eq_ok_iff]
    exact ⟨_, apply_eq_ok_iff.2 ⟨_, known, true, rfl, rfl⟩, rfl⟩
  have unfit : ¬ t.Fits := fun fit =>
    ((settings_with_options_fit_iff created strays).1.1 fit).1 _ (List.mem_singleton_self _) key
  exact ⟨start, s, t, created, accepted, fits.2 ⟨documented, bounded⟩, exact ⟨_, double⟩, strays, rfl,
    unfit⟩

/-- The power of ten from which on doubles are infinite, as a seed. -/
theorem infinite_seed_is_accepted :
    ∃ start s : RenderSettings Float, ofRaw .missing = .valid start ∧
      start.applyAll [("seed", String.ofList (['1'] ++ List.replicate 309 '0'))] = .ok s ∧
      Scalar.isWhole s.seed = false ∧ ¬ s.Fits := by
  have digits : AllDigits (['1'] ++ List.replicate 309 '0') :=
    AllDigits.append (by decide) (allDigits_zeros 309)
  have number : readDigits (['1'] ++ List.replicate 309 '0') = 10 ^ 309 := by
    rw [readDigits_append_zeros, show readDigits ['1'] = 1 from rfl, Nat.one_mul]
  have large : overflow ≤ 10 ^ 309 := by decide +kernel
  have known : (optionKey "seed", OptionTarget.seed) ∈ optionTargets := by decide +kernel
  obtain ⟨x, infinite, denotes⟩ : ∃ x : Float, ¬ Scalar.isWhole x = true ∧
      Denotes (String.ofList (['1'] ++ List.replicate 309 '0')) x := by
    refine ⟨signed .positive (10 ^ 309), ?_, ?_⟩
    · rw [isWhole_signed]
      exact Nat.not_lt.2 large
    · rw [← number]
      exact .plain (List.cons_ne_nil _ _) digits
  refine ⟨defaults, { (defaults : RenderSettings Float) with seed := x }, rfl, ?_,
    Bool.eq_false_iff.2 infinite, fun fits => infinite (double_fits_iff.1 fits).2⟩
  rw [applyAll_cons_eq_ok_iff]
  exact ⟨_, apply_eq_ok_iff.2 ⟨_, known, _, denotes, rfl⟩, rfl⟩

end Doubles

end RenderSettings

end SceneScript
