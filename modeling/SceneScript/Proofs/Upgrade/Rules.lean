import SceneScript.Proofs.Upgrade.Settling

/-!
# Every rule settles

One lemma for each upgrade rule, in the order of the rules: images, textures, materials, lights and
shapes. `settles_camera`, `settles_texture`, `settles_material` and so on are those that the writer
runs.
-/

set_option autoImplicit false

namespace SceneScript

open Rule

/-- A directive brought up to date whose name and definitions are spelled in an alphabet. -/
structure Upgraded.Spelled {α : Type} [Scalar α] (A : Alphabet α) (u : Upgraded α) : Prop where
  name : A.Spells u.name
  definitions : A.SpellsAll u.definitions

namespace Upgrade

variable {α : Type} [Scalar α] {A : Alphabet α}

theorem settles_bumpMap : Settles A A.SpellsAll (fun _ => (bumpMap : Rule α (List (Param α)))) := by
  unfold bumpMap
  refine (Settles.texture "bumpmap").bind fun bump spelled => ?_
  split
  · exact .pure .nil
  · refine (Settles.remove "texture" "bumpmap").bind fun _ _ => .pure ?_
    exact .cons (spelled_string (by simp) (by simp) spelled) .nil

/-! ## Images -/

theorem settles_filterRadius {before after : String} (line : '\n' ∉ after.toList) :
    Settles A A.SpellsAll (fun _ => (filterRadius before after : Rule α (List (Param α)))) := by
  unfold filterRadius
  refine (Settles.ask "float" before _).bind fun width _ => ?_
  split
  · refine (Settles.remove "float" before).bind fun _ _ => .pure ?_
    exact .cons (spelled_numbers (by simp) line _ (by simp)) .nil
  · exact .pure .nil

theorem settles_filterFalloff :
    Settles A A.SpellsAll (fun _ => (filterFalloff : Rule α (List (Param α)))) := by
  unfold filterFalloff
  refine (Settles.ask "float" "alpha" _).bind fun falloff _ => ?_
  split
  · refine (Settles.remove "float" "alpha").bind fun _ _ => .pure ?_
    exact .cons (spelled_numbers (by simp) (by simp) _ (by simp)) .nil
  · exact .pure .nil

theorem settles_pixelFilter (name : String) :
    Settles A A.SpellsAll (fun _ => (pixelFilter name : Rule α (List (Param α)))) := by
  unfold pixelFilter
  refine (settles_filterRadius (by simp)).bind fun x hx => ?_
  refine (settles_filterRadius (by simp)).bind fun y hy => ?_
  exact .choose (fun _ => settles_filterFalloff) (fun _ => .pure .nil)
    fun falloff hfalloff => .pure ((hx.append hy).append hfalloff)

theorem spells_filmName {name : String} (spells : A.Spells name) : A.Spells (filmName name) := by
  unfold filmName
  split
  · exact A.spells_of_line (by simp)
  · exact spells

theorem spells_samplerName {name : String} (spells : A.Spells name) :
    A.Spells (samplerName name) := by
  unfold samplerName
  split
  · exact A.spells_of_line (by simp)
  · split
    · exact A.spells_of_line (by simp)
    · exact spells

theorem settles_photonIterations :
    Settles A A.SpellsAll (fun _ => (photonIterations : Rule α (List (Param α)))) := by
  unfold photonIterations
  refine (Settles.remove "integer" "imagewritefrequency").bind fun _ _ => ?_
  refine (Settles.ask "integer" "numiterations" _).bind fun iterations _ => ?_
  split
  · exact .pure .nil
  · refine (Settles.remove "integer" "numiterations").bind fun _ _ => .pure ?_
    exact .cons (spelled_numbers (by simp) (by simp) _ (by simp)) .nil

theorem settles_lightStrategy :
    Settles A A.SpellsAll (fun _ => (lightStrategy : Rule α (List (Param α)))) := by
  unfold lightStrategy
  refine (Settles.oneString "lightsamplestrategy").bind fun strategy _ => ?_
  split
  · refine (Settles.remove "string" "lightsamplestrategy").bind fun _ _ => .pure ?_
    exact .cons (spelled_string (by simp) (by simp) (A.spells_of_line (by simp))) .nil
  · exact .pure .nil

theorem settles_integrator {name : String} (spelled : A.Spells name) :
    Settles A (Upgraded.Spelled A) (fun _ => (integrator name : Rule α (Upgraded α))) := by
  unfold integrator
  refine .choose (fun _ => settles_photonIterations) (fun _ => .pure .nil) fun p hp => ?_
  refine settles_lightStrategy.bind fun s hs => ?_
  split
  · refine .pure ⟨A.spells_of_line (by simp), (hp.append hs).append ?_⟩
    exact .cons (spelled_numbers (by simp) (by simp) _ (by simp)) .nil
  · exact .pure ⟨spelled, hp.append hs⟩

theorem settles_camera {name : String} (spelled : A.Spells name) :
    Settles A (Upgraded.Spelled A) (fun _ => (camera name : Rule α (Upgraded α))) := by
  unfold camera
  split
  · refine .pure ⟨A.spells_of_line (by simp), ?_⟩
    exact .cons (spelled_string (by simp) (by simp) (A.spells_of_line (by simp))) .nil
  · split
    · exact (Settles.remove "bool" "simpleweighting").bind fun _ _ => .pure ⟨spelled, .nil⟩
    · exact .pure ⟨spelled, .nil⟩

/-! ## Textures -/

theorem spells_textureKindName {type : String} (spells : A.Spells type) :
    A.Spells (textureKindName type) := by
  unfold textureKindName
  split
  · exact A.spells_of_line (by simp)
  · exact spells

theorem settles_imageFilter :
    Settles A A.SpellsAll (fun _ => (imageFilter : Rule α (List (Param α)))) := by
  unfold imageFilter
  refine (Settles.ask "bool" "trilinear" _).bind fun trilinear _ => ?_
  split
  · rename_i on
    refine (Settles.remove "bool" "trilinear").bind fun _ _ => .pure ?_
    have filter : A.Spells (if on then "trilinear" else "bilinear") := by
      cases on <;> exact A.spells_of_line (by simp)
    exact .cons (spelled_string (by simp) (by simp) filter) .nil
  · exact .pure .nil

/-- Images, and meshes, take their file under a new name. -/
theorem settles_file {before after : String} (line : '\n' ∉ after.toList) :
    Settles A A.SpellsAll (fun _ => (do
      let file ← look (Dictionary.oneString before "")
      if file = "" then return []
      else
        remove "string" before
        return [stringDefinition after file] : Rule α (List (Param α)))) := by
  refine (Settles.oneString before).bind fun file spelled => ?_
  split
  · exact .pure .nil
  · refine (Settles.remove "string" before).bind fun _ _ => .pure ?_
    exact .cons (spelled_string (by simp) line spelled) .nil

theorem settles_imageEncoding :
    Settles A A.SpellsAll (fun _ => (imageEncoding : Rule α (List (Param α)))) := by
  unfold imageEncoding
  refine (Settles.ask "float" "gamma" _).bind fun gamma _ => ?_
  split
  · refine (Settles.remove "float" "gamma").bind fun _ _ => .pure ?_
    have encoding : A.Spells ("gamma " ++ Scalar.text gamma) :=
      (A.spells_of_line (by simp)).append (A.spells_number gamma)
    exact .cons (spelled_string (by simp) (by simp) encoding) .nil
  · refine (Settles.ask "bool" "gamma" _).bind fun flag _ => ?_
    split
    · rename_i on
      refine (Settles.remove "bool" "gamma").bind fun _ _ => .pure ?_
      have encoding : A.Spells (if on then "sRGB" else "linear") := by
        cases on <;> exact A.spells_of_line (by simp)
      exact .cons (spelled_string (by simp) (by simp) encoding) .nil
    · exact .pure .nil

theorem settles_texture (implementation : String) :
    Settles A A.SpellsAll (fun _ => (texture implementation : Rule α (List (Param α)))) := by
  unfold texture
  refine .choose (fun _ => settles_imageFilter) (fun _ => .pure .nil) fun f hf => ?_
  split
  · refine (settles_file (by simp)).bind fun i hi => ?_
    exact settles_imageEncoding.bind fun e he => .pure ((hf.append hi).append he)
  · exact .pure hf

theorem spelled_renameOperand {p : Param α} (spelled : p.Spelled A) :
    (renameOperand p).Spelled A := by
  unfold renameOperand
  split
  · exact ⟨spelled.type, A.spells_of_line (by simp), spelled.strings⟩
  · split
    · exact ⟨spelled.type, A.spells_of_line (by simp), spelled.strings⟩
    · exact spelled

theorem spelled_scaleOperand {sceneName : String} {met met' : OperandsMet} {p p' : Param α}
    (spelled : p.Spelled A) (scaled : scaleOperand sceneName met p = .ok (p', met')) :
    p'.Spelled A := by
  unfold scaleOperand at scaled
  split at scaled
  · cases scaled
    exact spelled
  · split at scaled
    · split at scaled
      · cases scaled
      · split at scaled
        · cases scaled
        · cases scaled
          exact ⟨A.spells_of_line (by simp), A.spells_of_line (by simp), spelled.strings⟩
    · split at scaled
      · cases scaled
      · cases scaled
        exact ⟨spelled.type, A.spells_of_line (by simp), spelled.strings⟩

theorem spellsAll_scaleOperands {sceneName : String} {met : OperandsMet}
    {params params' : List (Param α)} (spelled : A.SpellsAll params)
    (scaled : scaleOperands sceneName met params = .ok params') : A.SpellsAll params' := by
  induction params generalizing met params' with
  | nil =>
    cases scaled
    exact .nil
  | cons p rest ih =>
    unfold scaleOperands at scaled
    split at scaled
    · cases scaled
    · rename_i p' met' first
      split at scaled
      · cases scaled
      · rename_i rest' others
        cases scaled
        exact .cons (spelled_scaleOperand (spelled p List.mem_cons_self) first)
          (ih (fun q hq => spelled q (List.mem_cons_of_mem p hq)) others)

/-- The operands of a scaled texture are spelled as they were. -/
theorem spellsAll_scaledTexture {sceneName type : String} {params params' : List (Param α)}
    (spelled : A.SpellsAll params) (scaled : scaledTexture sceneName type params = .ok params') :
    A.SpellsAll params' := by
  unfold scaledTexture at scaled
  split at scaled
  · cases scaled
    intro q hq
    obtain ⟨p, hp, rfl⟩ := List.mem_map.1 hq
    exact spelled_renameOperand (spelled p hp)
  · exact spellsAll_scaleOperands spelled scaled

/-! ## Materials -/

theorem settles_refraction (name : String) :
    Settles A A.SpellsAll (fun loc => refraction name loc) := by
  unfold refraction
  split
  · exact .pure .nil
  · refine (Settles.texture "index").bind fun index spelled => ?_
    split
    · refine (Settles.texture "eta").bind fun eta _ => ?_
      split
      · exact .refuse id _
      · refine (Settles.remove "texture" "index").bind fun _ _ => .pure ?_
        exact .cons (spelled_string (by simp) (by simp) spelled) .nil
    · refine (Settles.ask "float" "index" _).bind fun numbers _ => ?_
      split
      · exact .pure .nil
      · refine (Settles.ask "float" "eta" _).bind fun eta _ => ?_
        split
        · exact .refuse id _
        · refine (Settles.remove "float" "index").bind fun _ _ => .pure ?_
          exact .cons (spelled_numbers (by simp) (by simp) _ (by simp)) .nil
      · exact .refuse id _

theorem settles_dropColor (target name : String) (neutral : α) :
    Settles A (fun _ => True) (fun loc => dropColor loc target name neutral) := by
  unfold dropColor
  refine (Settles.ask "rgb" name _).bind fun color _ => ?_
  -- every way ends with the color and the texture removed
  have removed (harmless : Bool) : Settles A (fun _ => True) (fun _ => (do
      removeColor name
      remove "texture" name
      return harmless : Rule α Bool)) :=
    (Settles.removeColor name).bind fun _ _ =>
      (Settles.remove "texture" name).bind fun _ _ => .value _
  dsimp only
  split
  · refine (Settles.hasColor name).bind fun bound _ => ?_
    split
    · refine Settles.get.bind fun d _ => ?_
      exact (Settles.report .warning _).bind fun _ _ => removed _
    · exact removed _
  · exact removed _

theorem settles_opacity : Settles A (fun _ => True) (fun loc : Location α => opacity loc) := by
  unfold opacity
  refine (Settles.texture "opacity").bind fun texture _ => ?_
  split
  · exact .refuse id _
  · refine (Settles.hasColor "opacity").bind fun bound _ => ?_
    split
    · refine (Settles.ask "rgb" "opacity" _).bind fun color _ => ?_
      split
      · exact .removeColor "opacity"
      · exact .refuse id _
    · exact .value _

theorem settles_coated (coat : List String) :
    Settles A A.Spells (fun loc => coated loc coat) := by
  unfold coated
  refine (settles_dropColor "coateddiffuse" "Ks" 0).bind fun matte _ => ?_
  split
  · refine (Settles.forEach (fun name => Settles.remove "float" name) coat).bind fun _ _ => ?_
    exact .pure (A.spells_of_line (by simp))
  · exact .pure (A.spells_of_line (by simp))

theorem settles_uber : Settles A A.Spells (fun loc => uber loc) := by
  unfold uber
  refine (settles_coated ["eta", "roughness"]).bind fun name spelled => ?_
  refine (settles_dropColor name "Kr" 0).bind fun _ _ => ?_
  refine (settles_dropColor name "Kt" 0).bind fun _ _ => ?_
  refine (Settles.rename (by simp)).bind fun _ _ => ?_
  exact settles_opacity.bind fun _ _ => .pure spelled

theorem settles_mixAmount : Settles A A.SpellsAll (fun loc => mixAmount loc) := by
  have amount (x : α) : A.SpellsAll [floatDefinition "amount" x] :=
    .cons (spelled_numbers (by simp) (by simp) _ (by simp)) .nil
  have removed (ps : List (Param α)) (spelled : A.SpellsAll ps) :
      Settles A A.SpellsAll (fun _ => (do removeColor "amount"; return ps)) :=
    (Settles.removeColor "amount").bind fun _ _ => .pure spelled
  unfold mixAmount
  refine (Settles.ask "rgb" "amount" _).bind fun color _ => ?_
  dsimp only
  split
  · split
    · exact (Settles.pure (amount _)).bind removed
    · refine (Settles.report .warning _).bind fun _ _ => ?_
      exact (Settles.pure (amount _)).bind removed
  · -- what is left to do once it is known whether the amount can be used
    have dropped (unusable : Bool) : Settles A A.SpellsAll (fun loc => do
        if unusable then
          let d ← Action.get
          report .error loc
            ("Unable to update non-RGB spectrum \"amount\" to a scalar: " ++ d.definition "amount")
        let definitions ← pure []
        removeColor "amount"
        return definitions) := by
      have rest := (Settles.pure (A := A) (.nil : A.SpellsAll [])).bind removed
      dsimp only
      split
      · refine Settles.get.bind fun d _ => ?_
        exact (Settles.report .error _).bind fun _ _ => rest
      · exact rest
    refine (Settles.hasColor "amount").bind fun bound _ => ?_
    split
    · exact (Settles.value _).bind fun unusable _ => dropped unusable
    · refine (Settles.texture "amount").bind fun texture _ => ?_
      exact (Settles.value _).bind fun unusable _ => dropped unusable

theorem settles_substrate : Settles A A.Spells (fun loc => substrate loc) := by
  unfold substrate
  refine (settles_dropColor "coateddiffuse" "Ks" 1).bind fun _ _ => ?_
  refine (Settles.rename (by simp)).bind fun _ _ => ?_
  exact .pure (A.spells_of_line (by simp))

theorem settles_glass : Settles A A.Spells (fun loc => glass loc) := by
  unfold glass
  refine (settles_dropColor "dielectric" "Kr" 1).bind fun _ _ => ?_
  refine (settles_dropColor "dielectric" "Kt" 1).bind fun _ _ => ?_
  exact .pure (A.spells_of_line (by simp))

theorem settles_plastic : Settles A A.Spells (fun loc => plastic loc) := by
  unfold plastic
  refine (settles_coated ["roughness", "eta"]).bind fun name spelled => ?_
  exact (Settles.rename (by simp)).bind fun _ _ => .pure spelled

theorem settles_metal : Settles A A.Spells (fun loc => metal loc) := by
  unfold metal
  refine (settles_dropColor "conductor" "Kr" 1).bind fun _ _ => ?_
  exact .pure (A.spells_of_line (by simp))

theorem settles_translucent : Settles A A.Spells (fun loc => translucent loc) := by
  unfold translucent
  refine (Settles.rename (by simp)).bind fun _ _ => ?_
  refine (settles_dropColor "diffusetransmission" "reflect" 0).bind fun _ _ => ?_
  refine (settles_dropColor "diffusetransmission" "transmit" 1).bind fun _ _ => ?_
  refine (settles_dropColor "diffusetransmission" "Ks" 0).bind fun _ _ => ?_
  refine (Settles.remove "float" "roughness").bind fun _ _ => ?_
  exact .pure (A.spells_of_line (by simp))

theorem spellsAll_mirrorDefinitions : A.SpellsAll (mirrorDefinitions : List (Param α)) := by
  refine .cons (spelled_numbers (by simp) (by simp) _ (by simp)) (.cons ?_ (.cons ?_ .nil))
  · exact spelled_string (by simp) (by simp) (A.spells_of_line (by simp))
  · exact spelled_string (by simp) (by simp) (A.spells_of_line (by simp))

theorem settles_materialBody {name : String} (spelled : A.Spells name) :
    Settles A (Upgraded.Spelled A) (fun loc => materialBody name loc) := by
  have named {rule : Location α → Rule α String} (settles : Settles A A.Spells rule) :
      Settles A (Upgraded.Spelled A) (fun loc => (do return ⟨← rule loc, []⟩)) :=
    settles.bind fun _ spelled => .pure ⟨spelled, .nil⟩
  have renamed {target : String} (line : '\n' ∉ target.toList) :
      Settles A (Upgraded.Spelled A) (fun _ => (do
        rename "Kd" "reflectance"
        return ⟨target, []⟩ : Rule α (Upgraded α))) :=
    (Settles.rename (by simp)).bind fun _ _ => .pure ⟨A.spells_of_line line, .nil⟩
  unfold materialBody
  split
  · exact named settles_uber
  · exact settles_mixAmount.bind fun _ definitions => .pure ⟨spelled, definitions⟩
  · exact named settles_substrate
  · exact named settles_glass
  · exact named settles_plastic
  · exact (Settles.report .warning _).bind fun _ _ => .pure ⟨spelled, .nil⟩
  · exact renamed (by simp)
  · exact renamed (by simp)
  · exact named settles_metal
  · exact named settles_translucent
  · refine (settles_dropColor "conductor" "Kr" 0).bind fun _ _ => ?_
    exact .pure ⟨A.spells_of_line (by simp), spellsAll_mirrorDefinitions⟩
  · exact .pure ⟨spelled, .nil⟩

theorem settles_material {name : String} (spelled : A.Spells name) :
    Settles A (Upgraded.Spelled A) (fun loc => material name loc) := by
  unfold material
  refine (settles_refraction name).bind fun eta heta => ?_
  refine settles_bumpMap.bind fun bump hbump => ?_
  refine (settles_materialBody spelled).bind fun body hbody => ?_
  exact .pure ⟨hbody.name, (heta.append hbump).append hbody.definitions⟩

/-! ## Lights -/

theorem settles_foldColor (name : String) (factor : α) :
    Settles A (fun _ => True) (fun _ => foldColor name factor) := by
  unfold foldColor
  refine (Settles.hasColor name).bind fun bound _ => ?_
  split
  · exact .value _
  · refine (Settles.ask "rgb" name _).bind fun color _ => ?_
    split
    · exact .value _
    · split
      · exact (Settles.removeColor name).bind fun _ _ => .value _
      · exact .value _

theorem settles_foldOrRefuse (name : String) (fault : UpgradeFault) (factor : α) :
    Settles A (fun _ => True) (fun loc => foldOrRefuse name loc fault factor) := by
  unfold foldOrRefuse
  refine (settles_foldColor name factor).bind fun folded _ => ?_
  split
  · exact .value _
  · -- the place of the refusal may be that of the directive, but it is a refusal in any case
    exact fun d _ => .refuses fun loc => ⟨_, rfl⟩

theorem settles_blackbodyColor {name : String} (line : '\n' ∉ name.toList) (factor : α) :
    Settles A (fun r => A.SpellsAll r.1) (fun _ => blackbodyColor name factor) := by
  unfold blackbodyColor
  refine (Settles.ask "blackbody" name _).bind fun values _ => ?_
  split
  · refine (Settles.ask "float" "scale" _).bind fun scale _ => ?_
    refine (Settles.remove "float" "scale").bind fun _ _ => ?_
    refine (Settles.removeColor name).bind fun _ _ => .pure ?_
    exact .cons (spelled_numbers (by simp) line _ (by simp)) .nil
  · exact .pure .nil

theorem settles_blackbodyColors (factor : α) :
    Settles A (fun r => A.SpellsAll r.1) (fun _ => blackbodyColors factor) := by
  unfold blackbodyColors
  refine (settles_blackbodyColor (by simp) factor).bind fun l hl => ?_
  refine (settles_blackbodyColor (by simp) l.2).bind fun i hi => ?_
  exact .pure (hl.append hi)

theorem settles_scaleWith (factor : α) :
    Settles A A.SpellsAll (fun _ => scaleWith factor) := by
  unfold scaleWith
  split
  · exact .pure .nil
  · refine (Settles.ask "float" "scale" _).bind fun scale _ => ?_
    refine (Settles.remove "float" "scale").bind fun _ _ => .pure ?_
    exact .cons (spelled_numbers (by simp) (by simp) _ (by simp)) .nil

theorem settles_mapColor (name : String) (factor : α) :
    Settles A (fun _ => True) (fun loc => mapColor name loc factor) := by
  unfold mapColor
  refine (Settles.oneString "mapname").bind fun file _ => ?_
  split
  · split
    · exact settles_foldOrRefuse "L" .coloredInfiniteMap factor
    · exact .value _
  · split
    · exact settles_foldOrRefuse "I" .coloredProjectionMap factor
    · exact .value _

theorem settles_light (name : String) :
    Settles A A.SpellsAll (fun loc : Location α => light name loc) := by
  unfold light
  refine (settles_foldOrRefuse "scale" .coloredScale 1).bind fun factor _ => ?_
  refine (settles_blackbodyColors factor).bind fun colors hcolors => ?_
  refine (Settles.remove "integer" "nsamples").bind fun _ _ => ?_
  refine (settles_mapColor name colors.2).bind fun factor _ => ?_
  refine (settles_file (by simp)).bind fun file hfile => ?_
  refine (settles_scaleWith factor).bind fun scale hscale => ?_
  exact .pure ((hcolors.append hfile).append hscale)

theorem settles_areaLight {name : String} (spelled : A.Spells name) :
    Settles A (Upgraded.Spelled A) (fun loc => areaLight name loc) := by
  unfold areaLight
  refine (settles_foldOrRefuse "scale" .coloredScale 1).bind fun factor _ => ?_
  refine (settles_blackbodyColors factor).bind fun colors hcolors => ?_
  refine (Settles.remove "integer" "nsamples").bind fun _ _ => ?_
  refine (settles_scaleWith colors.2).bind fun scale hscale => .pure ⟨?_, hcolors.append hscale⟩
  split
  · exact A.spells_of_line (by simp)
  · exact spelled

/-! ## Shapes -/

theorem settles_loneFace (corners : Nat) :
    Settles A (fun _ => True) (fun _ => (loneFace corners : Rule α Unit)) := by
  unfold loneFace
  refine (Settles.ask "integer" "indices" _).bind fun indices _ => ?_
  split
  · refine (Settles.ask "point3" "P" _).bind fun points _ => ?_
    split
    · exact .remove "integer" "indices"
    · exact .value _
  · exact .value _

theorem settles_subdivisionLevels :
    Settles A A.SpellsAll (fun _ => (subdivisionLevels : Rule α (List (Param α)))) := by
  unfold subdivisionLevels
  refine (Settles.ask "integer" "nlevels" _).bind fun levels _ => ?_
  split
  · exact .pure .nil
  · refine (Settles.remove "integer" "nlevels").bind fun _ _ => .pure ?_
    exact .cons (spelled_numbers (by simp) (by simp) _ (by simp)) .nil

theorem settles_flatCoordinates (name : String) (found : List (α × α)) :
    Settles A (fun _ => True) (fun _ => flatCoordinates name found) := by
  unfold flatCoordinates
  refine (Settles.ask "float" name _).bind fun flat _ => ?_
  split
  · exact .value _
  · exact (Settles.remove "float" name).bind fun _ _ => .value _

theorem settles_coordinates :
    Settles A A.SpellsAll (fun _ => (coordinates : Rule α (List (Param α)))) := by
  unfold coordinates
  refine (Settles.ask "point2" "st" _).bind fun points _ => ?_
  have defined (found : List (α × α)) : Settles A A.SpellsAll (fun _ =>
      if found.isEmpty then (return [] : Rule α (List (Param α)))
      else
        return [.define "point2" "uv" (found.flatMap (fun p => [.number p.1, .number p.2]))]) := by
    split
    · exact .pure .nil
    · exact .pure (.cons (spelled_numbers (by simp) (by simp) _ (by simp)) .nil)
  dsimp only
  split
  · refine (Settles.remove "point2" "st").bind fun _ _ => ?_
    exact (Settles.value _).bind fun found _ => defined found
  · refine (settles_flatCoordinates "uv" []).bind fun uv _ => ?_
    exact (settles_flatCoordinates "st" uv).bind fun found _ => defined found

theorem settles_shape (name : String) :
    Settles A A.SpellsAll (fun _ => (shape name : Rule α (List (Param α)))) := by
  unfold shape
  refine .optional (settles_loneFace _) ?_
  refine .choose (fun _ => settles_subdivisionLevels) (fun _ => .pure .nil) fun levels hlevels => ?_
  refine .optional (.remove "bool" "discarddegenerateUVs") ?_
  refine .choose (fun _ => settles_file (by simp)) (fun _ => .pure .nil) fun file hfile => ?_
  refine .choose (fun _ => settles_coordinates) (fun _ => .pure .nil) fun uv huv => ?_
  refine settles_bumpMap.bind fun bump hbump => (Settles.rename (by simp)).bind fun _ _ => ?_
  exact .pure (((hlevels.append hfile).append huv).append hbump)

end Upgrade

end SceneScript
