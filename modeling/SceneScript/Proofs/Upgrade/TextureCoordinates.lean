import SceneScript.Proofs.Upgrade.ReducedToDiffuse
import Mathlib.Algebra.Group.Nat.Even

/-!
# Texture coordinates of an upgraded mesh

The coordinates of a triangle mesh are points named "st", or plain numbers named "uv" or "st". An
upgrade takes them out and defines points named "uv". Points are all that is taken out if there are
any; of two lists of numbers both are taken out and the one named "st" is defined. A single last number
makes no point. So numbers may be lost, and `kept_coordinates_iff` says which meshes keep them all.
-/

set_option autoImplicit false

namespace SceneScript

open Dictionary

namespace Dictionary

variable {α : Type}

/-- Two by two and one after the other, numbers stay in order; an odd one at the end is dropped. -/
theorem flatMap_pairs (numbers : List α) :
    (pairs numbers).flatMap (fun p => [ParamValue.number p.1, .number p.2]) =
      (numbers.take (2 * (numbers.length / 2))).map .number := by
  induction numbers using pairs.induct with
  | case1 x y rest ih =>
    have two : 2 * ((x :: y :: rest).length / 2) = 2 * (rest.length / 2) + 2 := by
      rw [List.length_cons, List.length_cons]
      omega
    rw [pairs, List.flatMap_cons, ih, two]
    rfl
  | case2 numbers short =>
    rcases numbers with _ | ⟨x, _ | ⟨y, rest⟩⟩
    · simp [pairs]
    · simp [pairs]
    · exact absurd rfl (short x y rest)

theorem pairs_eq_nil_iff {numbers : List α} :
    pairs numbers = [] ↔ numbers.take (2 * (numbers.length / 2)) = [] := by
  rcases numbers with _ | ⟨x, _ | ⟨y, rest⟩⟩
  · simp [pairs]
  · simp [pairs]
  · have two : 2 * ((x :: y :: rest).length / 2) ≠ 0 := by
      rw [List.length_cons, List.length_cons]
      omega
    simp only [pairs, List.take_eq_nil_iff, two, reduceCtorEq, or_false]

end Dictionary

/-- The numbers of a definition are those it was made of. -/
theorem Param.numbers_define {α : Type} [Scalar α] (type name : String) (numbers : List α) :
    (Param.define type name (numbers.map .number)).numbers = numbers := by
  have pushed (p : Param α) :
      ((numbers.map ParamValue.number).foldl Param.push p).numbers = p.numbers ++ numbers := by
    induction numbers generalizing p with
    | nil => exact (List.append_nil _).symm
    | cons x rest ih =>
      rw [List.map_cons, List.foldl_cons, ih]
      exact List.append_assoc p.numbers [x] rest
  exact pushed _

namespace Contents

variable {α : Type} {type name : String} {c c' : Contents α} {k : String × String}

/-- The types and names under which an upgrade takes texture coordinates out of a triangle mesh. -/
def coordinateKeys (c : Contents α) : List (String × String) :=
  if pairs (c.numbersOf "point2" "st") ≠ [] then [("point2", "st")]
  else [("float", "uv"), ("float", "st")].filter fun k => !(c.numbersOf k.1 k.2).isEmpty

/-- The numbers of the coordinates that are defined again: those of the last key. -/
def coordinateNumbers (c : Contents α) : List α :=
  (c.coordinateKeys.getLast?.map fun k => c.numbersOf k.1 k.2).getD []

/-- The numbers of which the definition of the coordinates is made. -/
def definedCoordinates (c : Contents α) : List α :=
  c.coordinateNumbers.take (2 * (c.coordinateNumbers.length / 2))

/-- The definition of the coordinates, unless there is no point to define. -/
def coordinateDefinition [Scalar α] (c : Contents α) : List (Param α) :=
  if c.definedCoordinates = [] then []
  else [.define "point2" "uv" (c.definedCoordinates.map .number)]

/-- The contents without the parameters of the given types and names. -/
def withoutKeys (keys : List (String × String)) (c : Contents α) : Contents α :=
  keys.foldl (fun c k => c.removeWhere (hasType k.1 k.2)) c

/-- The numbers of every texture coordinate that was there before and has been taken out stand, in
order, in a definition of the coordinates. -/
def CoordinatesKept (before after : Contents α) (definitions : List (Param α)) : Prop :=
  ∀ type, ∀ name ∈ ["st", "uv"], ∀ p, before.find? (hasType type name) = some p →
    after.Lacks type name → ∃ q ∈ definitions, q.type = "point2" ∧ q.name = "uv" ∧
      p.numbers.Sublist q.numbers

theorem mem_named_of_find? {p : Param α} (found : c.find? (hasType type name) = some p) :
    p ∈ c.named name ∧ modernType p.type = type := by
  rw [find?, Option.or_eq_some_iff] at found
  have asked : hasType type name p = true ∧ p ∈ c.params := by
    rcases found with own | ⟨-, inherited⟩
    · exact ⟨List.find?_some own,
        List.mem_append_left _ (List.mem_reverse.1 (List.mem_of_find?_eq_some own))⟩
    · exact ⟨List.find?_some inherited,
        List.mem_append_right _ (List.mem_reverse.1 (List.mem_of_find?_eq_some inherited))⟩
  have same := asked.1
  simp only [hasType, Bool.and_eq_true, beq_iff_eq] at same
  exact ⟨List.mem_filter.2 ⟨asked.2, beq_iff_eq.2 same.1⟩, same.2⟩

/-- Of the parameters of a name, those under the removed keys are gone. -/
theorem named_withoutKeys (keys : List (String × String)) :
    (c.withoutKeys keys).named name =
      (c.named name).filter fun p => (modernType p.type, name) ∉ keys := by
  induction keys generalizing c with
  | nil => simp [withoutKeys]
  | cons k rest ih =>
    obtain ⟨type, other⟩ := k
    rw [withoutKeys, List.foldl_cons, ← withoutKeys, ih]
    by_cases same : other = name
    · subst same
      rw [named_remove, List.filter_filter]
      refine List.filter_congr fun p _ => ?_
      simp [bne, Bool.and_comm, beq_eq_decide]
    · rw [named_remove_of_ne same]
      simp [Ne.symm same]

/-- Parameters of a type are gone under a name if there were none or if they stood under a key. -/
theorem lacks_iff_of_named {keys : List (String × String)}
    (left : c'.named name = (c.named name).filter fun p => (modernType p.type, name) ∉ keys) :
    c'.Lacks type name ↔ (c.Lacks type name ∨ (type, name) ∈ keys) := by
  rw [lacks_iff_named, lacks_iff_named, left]
  simp only [List.mem_filter, decide_eq_true_eq, and_imp]
  constructor
  · intro none
    by_cases gone : (type, name) ∈ keys
    · exact Or.inr gone
    · refine Or.inl fun p given same => none p given ?_ same
      rwa [same]
  · rintro (none | gone) p given stays same
    · exact none p given same
    · exact stays (same ▸ gone)

/-- Only parameters with numbers are taken out. -/
theorem numbersOf_ne_nil_of_mem_coordinateKeys (mem : k ∈ c.coordinateKeys) :
    c.numbersOf k.1 k.2 ≠ [] := by
  rw [coordinateKeys] at mem
  split at mem
  · rename_i points
    obtain rfl := List.mem_singleton.1 mem
    intro none
    exact points (by simp [none, pairs])
  · simpa using (List.mem_filter.1 mem).2

theorem coordinateKeys_congr (st : SameOn "st" c c') (uv : SameOn "uv" c c') :
    c'.coordinateKeys = c.coordinateKeys := by
  simp only [coordinateKeys, List.filter_cons, List.filter_nil, st.numbersOf, uv.numbersOf]

theorem name_of_mem_coordinateKeys (mem : k ∈ c.coordinateKeys) : k.2 ∈ ["st", "uv"] := by
  rw [coordinateKeys] at mem
  split at mem
  · obtain rfl := List.mem_singleton.1 mem
    simp
  · have given := (List.mem_filter.1 mem).1
    revert given
    revert k
    simp

/-- Behind every key a parameter with its numbers answers. -/
theorem exists_of_mem_coordinateKeys (mem : k ∈ c.coordinateKeys) :
    ∃ p, c.find? (hasType k.1 k.2) = some p ∧ p.numbers = c.numbersOf k.1 k.2 := by
  have some := numbersOf_ne_nil_of_mem_coordinateKeys mem
  cases found : c.find? (hasType k.1 k.2) with
  | none => exact absurd (Lacks.numbersOf found) some
  | some p => exact ⟨p, rfl, by rw [numbersOf, found, Option.map_some, Option.getD_some]⟩

theorem coordinateNumbers_congr (st : SameOn "st" c c') (uv : SameOn "uv" c c') :
    c'.coordinateNumbers = c.coordinateNumbers := by
  rw [coordinateNumbers, coordinateNumbers, coordinateKeys_congr st uv]
  cases last : c.coordinateKeys.getLast? with
  | none => rfl
  | some k =>
    have named := name_of_mem_coordinateKeys (List.mem_of_getLast? last)
    rw [List.mem_pair] at named
    rw [Option.map_some, Option.map_some]
    rcases named with name | name
    · rw [name, st.numbersOf]
    · rw [name, uv.numbersOf]

/-- All numbers that are taken out are defined again exactly if the last ones make whole points and
have the others among them. -/
theorem sublist_definedCoordinates_iff :
    (∀ k ∈ c.coordinateKeys, (c.numbersOf k.1 k.2).Sublist c.definedCoordinates) ↔
      Even c.coordinateNumbers.length ∧
        ∀ k ∈ c.coordinateKeys, (c.numbersOf k.1 k.2).Sublist c.coordinateNumbers := by
  constructor
  · intro kept
    refine ⟨?_, fun k mem => (kept k mem).trans (List.take_sublist _ _)⟩
    cases last : c.coordinateKeys.getLast? with
    | none => simp [coordinateNumbers, last]
    | some k =>
      have numbers : c.coordinateNumbers = c.numbersOf k.1 k.2 := by simp [coordinateNumbers, last]
      have short := (kept k (List.mem_of_getLast? last)).length_le
      rw [← numbers, definedCoordinates, List.length_take] at short
      rw [Nat.even_iff]
      omega
  · rintro ⟨even, among⟩ k mem
    rw [definedCoordinates, Nat.two_mul_div_two_of_even even, List.take_length]
    exact among k mem

variable [Scalar α]

theorem coordinateDefinition_congr (st : SameOn "st" c c') (uv : SameOn "uv" c c') :
    c'.coordinateDefinition = c.coordinateDefinition := by
  rw [coordinateDefinition, coordinateDefinition, definedCoordinates, definedCoordinates,
    coordinateNumbers_congr st uv]

/-- The definition is one of points named "uv". -/
theorem filter_coordinateDefinition :
    c.coordinateDefinition.filter (·.name == "uv") = c.coordinateDefinition := by
  rw [coordinateDefinition]
  split
  · rfl
  · simp

/-- Without coordinates to take out there is nothing to define. -/
theorem coordinateDefinition_of_no_keys (none : c.coordinateKeys = []) :
    c.coordinateDefinition = [] := by
  simp [coordinateDefinition, definedCoordinates, coordinateNumbers, none]

theorem mem_coordinateDefinition {p : Param α} : p ∈ c.coordinateDefinition ↔
    c.definedCoordinates ≠ [] ∧ p = .define "point2" "uv" (c.definedCoordinates.map .number) := by
  rw [coordinateDefinition]
  split
  · rename_i none
    simp [none]
  · rename_i some
    rw [List.mem_singleton, and_iff_right some]

/-- Where the parameters of the keys are gone and the coordinates are defined, all coordinates are kept
exactly if the numbers of every key are in the definition. -/
theorem coordinatesKept_iff {ds : List (Param α)}
    (left : ∀ name ∈ ["st", "uv"], c'.named name =
      (c.named name).filter fun p => (modernType p.type, name) ∉ c.coordinateKeys)
    (defined : ds.filter (·.name == "uv") = c.coordinateDefinition) :
    CoordinatesKept c c' ds ↔
      ∀ k ∈ c.coordinateKeys, (c.numbersOf k.1 k.2).Sublist c.definedCoordinates := by
  have definition (q : Param α) : (q ∈ ds ∧ q.name = "uv") ↔ q ∈ c.coordinateDefinition := by
    rw [← defined, List.mem_filter, beq_iff_eq]
  constructor
  · intro kept k mem
    have name := name_of_mem_coordinateKeys mem
    obtain ⟨p, found, numbers⟩ := exists_of_mem_coordinateKeys mem
    obtain ⟨q, given, -, named, sub⟩ := kept k.1 k.2 name p found
      ((lacks_iff_of_named (left k.2 name)).2 (Or.inr mem))
    obtain ⟨-, rfl⟩ := mem_coordinateDefinition.1 ((definition q).1 ⟨given, named⟩)
    rwa [Param.numbers_define, numbers] at sub
  · intro kept type name named p found lacks
    have mem : (type, name) ∈ c.coordinateKeys := by
      rcases (lacks_iff_of_named (left name named)).1 lacks with none | mem
      · exact nomatch found.symm.trans none
      · exact mem
    have numbers : p.numbers = c.numbersOf type name := by
      rw [numbersOf, found, Option.map_some, Option.getD_some]
    have sub := kept _ mem
    have some : c.definedCoordinates ≠ [] := fun none =>
      numbersOf_ne_nil_of_mem_coordinateKeys mem (List.sublist_nil.1 (none ▸ sub))
    have given := (definition _).2 (mem_coordinateDefinition.2 ⟨some, rfl⟩)
    refine ⟨_, given.1, Param.type_define .., given.2, ?_⟩
    rwa [Param.numbers_define, numbers]

end Contents

namespace Upgrade

open Contents Rule

variable {α : Type} {c : Contents α}

/-- Numbers of a name are taken out, if there are any, and take the place of what was found before. -/
theorem yields_flatCoordinates {flat : String} {found : List (α × α)} :
    (flatCoordinates flat found).Yields c
      (if c.numbersOf "float" flat = [] then found else pairs (c.numbersOf "float" flat))
      (if c.numbersOf "float" flat = [] then c else c.removeWhere (hasType "float" flat)) := by
  rw [flatCoordinates]
  refine .bind (.ask (b := c.numbersOf "float" flat) rfl) ?_
  cases c.numbersOf "float" flat with
  | nil => exact .pure
  | cons x rest => exact .bind .remove .pure

variable [Scalar α]

/-- The points that were found are defined again, if there are any. -/
theorem yields_points (numbers : List α) : Rule.Yields (do
      if (pairs numbers).isEmpty then return []
      else
        return [.define "point2" "uv"
          ((pairs numbers).flatMap (fun p => [.number p.1, .number p.2]))] :
          Rule α (List (Param α))) c
      (if numbers.take (2 * (numbers.length / 2)) = [] then []
        else [.define "point2" "uv" ((numbers.take (2 * (numbers.length / 2))).map .number)]) c := by
  rw [flatMap_pairs]
  by_cases none : pairs numbers = []
  · rw [none, if_pos (pairs_eq_nil_iff.1 none)]
    exact .pure
  · rw [if_neg (mt pairs_eq_nil_iff.2 none), if_neg (mt List.isEmpty_iff.1 none)]
    exact .pure

theorem yields_coordinates : (coordinates : Rule α (List (Param α))).Yields c
    c.coordinateDefinition (c.withoutKeys c.coordinateKeys) := by
  rw [coordinates]
  refine .bind (.ask (b := pairs (c.numbersOf "point2" "st")) rfl) ?_
  dsimp only
  rw [coordinateDefinition, definedCoordinates, coordinateNumbers]
  by_cases points : pairs (c.numbersOf "point2" "st") = []
  · -- what is found under the first name is not in the way of the second
    have st : (if c.numbersOf "float" "uv" = [] then c
        else c.removeWhere (hasType "float" "uv")).numbersOf "float" "st" =
        c.numbersOf "float" "st" := by
      split
      · rfl
      · exact SameOn.numbersOf (.remove (by decide)) _
    rw [points, coordinateKeys, if_neg (not_not_intro points)]
    refine .bind yields_flatCoordinates (.bind yields_flatCoordinates ?_)
    rw [st]
    by_cases uv : c.numbersOf "float" "uv" = [] <;>
      by_cases flat : c.numbersOf "float" "st" = [] <;>
      simp only [uv, flat, if_true, if_false, List.filter_cons, List.filter_nil, List.isEmpty_nil,
        List.isEmpty_eq_false_iff.2, ne_eq, not_false_eq_true, Bool.not_true, Bool.not_false,
        Bool.false_eq_true]
    · exact yields_points []
    · exact yields_points _
    · exact yields_points _
    · exact yields_points _
  · rw [if_pos (by simpa using points), coordinateKeys, if_pos points]
    exact .bind .remove (.bind .pure (yields_points _))

/-- The rule for triangle meshes. -/
theorem triangles_eq : (shape "trianglemesh" : Rule α (List (Param α))) =
    loneFace 3 >>= fun _ => remove "bool" "discarddegenerateUVs" >>= fun _ =>
      coordinates >>= fun uv => bumpMap >>= fun bump =>
        rename "Kd" "reflectance" >>= fun _ => pure (uv ++ bump) := by
  rw [shape_eq]
  simp [loneFaceCorners]

theorem finishes_triangles : (shape "trianglemesh" : Rule α (List (Param α))).Finishes := by
  have face : (loneFace 3 : Rule α Unit).Finishes := by
    rw [loneFace]
    refine .bind .look fun indices => ?_
    split
    · refine .bind .look fun points => ?_
      split
      · exact .edit
      · exact .pure
    · exact .pure
  have uv : (coordinates : Rule α (List (Param α))).Finishes :=
    fun d => ⟨_, (yields_coordinates d rfl).1⟩
  rw [triangles_eq]
  exact .bind face fun _ => .bind .edit fun _ => .bind uv fun _ => .bind finishes_bumpMap fun _ =>
    .bind .edit fun _ => .pure

/-- What is defined for a triangle mesh, and what is left of it. -/
theorem leaves_triangles : (shape "trianglemesh" : Rule α (List (Param α))).Leaves c fun ds c' =>
    ds.filter (·.name == "uv") = c.coordinateDefinition ∧
      ∀ name ∈ ["st", "uv"], c'.named name =
        (c.named name).filter fun p => (modernType p.type, name) ∉ c.coordinateKeys := by
  rw [triangles_eq]
  refine (trimmed_loneFace 3 (List.mem_singleton_self "indices")).bind fun _ c₁ h₁ => ?_
  refine (trimmed_remove (List.mem_singleton_self "discarddegenerateUVs")).bind fun _ c₂ h₂ => ?_
  refine (yields_coordinates.leaves ⟨rfl, rfl⟩ : Leaves _ c₂ fun ds c₃ =>
    ds = c₂.coordinateDefinition ∧ c₃ = c₂.withoutKeys c₂.coordinateKeys).bind ?_
  rintro _ _ ⟨rfl, rfl⟩
  refine brings_bumpMap.bind fun bump c₄ h₄ => ?_
  refine (trimmed_rename (by decide) (List.mem_singleton_self "Kd")).bind fun _ c₅ h₅ => .pure ?_
  have before := h₁.andThen h₂
  have after := h₄.trimmed.andThen h₅
  have keys : c₂.coordinateKeys = c.coordinateKeys :=
    coordinateKeys_congr (before.sameOn (by decide)) (before.sameOn (by decide))
  constructor
  · have definition : c₂.coordinateDefinition = c.coordinateDefinition :=
      coordinateDefinition_congr (before.sameOn (by decide)) (before.sameOn (by decide))
    have other : bump.filter (·.name == "uv") = [] := by
      apply List.filter_eq_nil_iff.2
      intro p mem
      have key := h₄.keyed p mem
      simp only [List.mem_singleton, Prod.mk.injEq] at key
      simp [key.2]
    rw [List.filter_append, filter_coordinateDefinition, other, List.append_nil, definition]
  · intro name mem
    have apart : name ∉ presentNames ++ (["bumpmap"] ++ ["Kd"]) ∧
        name ∉ presentNames ++ (["indices"] ++ ["discarddegenerateUVs"]) := by
      revert name
      decide
    rw [after.named apart.1, named_withoutKeys, keys, before.named apart.2]

/-- The upgrade of a triangle mesh takes out the texture coordinates of some types and names, and none
besides. It defines what the last ones make of whole points, and nothing if none are taken out. So all
numbers that are taken out are kept exactly if there is no odd one at the end of the last ones, and if
the other ones are among them. -/
theorem kept_coordinates_iff (d : Dictionary α) :
    let c := d.contents
    let after := (shape "trianglemesh").run d
    let left := after.state.contents
    ∃ ds, after.result = .ok ds ∧ ds.filter (·.name == "uv") = c.coordinateDefinition ∧
      (∀ name ∈ ["st", "uv"], left.named name =
        (c.named name).filter fun p => (modernType p.type, name) ∉ c.coordinateKeys) ∧
      ((∀ name ∈ ["st", "uv"], left.named name = c.named name) → ∀ p ∈ ds, p.name ≠ "uv") ∧
      (CoordinatesKept c left ds ↔ Even c.coordinateNumbers.length ∧
        ∀ k ∈ c.coordinateKeys, (c.numbersOf k.1 k.2).Sublist c.coordinateNumbers) := by
  intro c after left
  obtain ⟨ds, finished⟩ := finishes_triangles d
  obtain ⟨defined, gone⟩ := leaves_triangles d rfl ds finished
  refine ⟨ds, finished, defined, gone, fun same p mem named => ?_, ?_⟩
  · have none : c.coordinateKeys = [] := by
      refine List.eq_nil_iff_forall_not_mem.2 fun k key => ?_
      obtain ⟨q, found, -⟩ := exists_of_mem_coordinateKeys key
      obtain ⟨given, typed⟩ := mem_named_of_find? found
      have name := name_of_mem_coordinateKeys key
      rw [← same _ name, gone _ name, List.mem_filter, decide_eq_true_eq, typed] at given
      exact given.2 key
    rw [coordinateDefinition_of_no_keys none] at defined
    exact List.filter_eq_nil_iff.1 defined p mem (beq_iff_eq.2 named)
  · rw [coordinatesKept_iff gone defined, sublist_definedCoordinates_iff]

/-- Of six numbers named "uv" beside two named "st" none is kept, and of three numbers of points named
"st" the third is lost. No message is given. -/
theorem coordinates_lost :
    let flat (name : String) (numbers : List Float) : Param Float :=
      ⟨"float", name, .unknown, numbers, [], [], false, none⟩
    let two := Writer.dictionary [flat "uv" [0, 0, 1, 0, 0, 1], flat "st" [0.5, 0.5]]
    let odd : Dictionary Float :=
      Writer.dictionary [⟨"point2", "st", .unknown, [0, 0, 1], [], [], false, none⟩]
    let upgraded (d : Dictionary Float) := (shape "trianglemesh").run d
    let defined (x y : Float) : List (Param Float) := [.define "point2" "uv" [.number x, .number y]]
    (upgraded two = ⟨.ok (defined 0.5 0.5), Writer.dictionary [], []⟩ ∧
      ¬ CoordinatesKept two.contents (upgraded two).state.contents (defined 0.5 0.5)) ∧
    upgraded odd = ⟨.ok (defined 0 0), Writer.dictionary [], []⟩ ∧
      ¬ CoordinatesKept odd.contents (upgraded odd).state.contents (defined 0 0) := by
  intro flat two odd upgraded defined
  have both {α : Type} [Scalar α] (a b c d e f x y : α) :
      (shape "trianglemesh" : Rule α (List (Param α))).run (Writer.dictionary
        [⟨"float", "uv", .unknown, [a, b, c, d, e, f], [], [], false, none⟩,
          ⟨"float", "st", .unknown, [x, y], [], [], false, none⟩]) =
        ⟨.ok [.define "point2" "uv" [.number x, .number y]], Writer.dictionary [], []⟩ := by
    cbv
  have third {α : Type} [Scalar α] (x y z : α) :
      (shape "trianglemesh" : Rule α (List (Param α))).run (Writer.dictionary
        [⟨"point2", "st", .unknown, [x, y, z], [], [], false, none⟩]) =
        ⟨.ok [.define "point2" "uv" [.number x, .number y]], Writer.dictionary [], []⟩ := by
    cbv
  -- more numbers do not fit among two
  have lost {d : Dictionary Float} {p : Param Float} {x y : Float} (type name : String)
      (mem : name ∈ ["st", "uv"]) (found : d.contents.find? (hasType type name) = some p)
      (more : 2 < p.numbers.length) :
      ¬ CoordinatesKept d.contents (Writer.dictionary []).contents (defined x y) := by
    intro kept
    obtain ⟨q, given, -, -, sub⟩ := kept type name mem p found rfl
    obtain rfl := List.mem_singleton.1 given
    exact absurd sub.length_le (Nat.not_le.2 more)
  refine ⟨⟨both .., ?_⟩, third .., ?_⟩
  · rw [show upgraded two = _ from both ..]
    have found : two.contents.find? (hasType "float" "uv") = some (flat "uv" [0, 0, 1, 0, 0, 1]) := by
      simp [two, flat, Writer.dictionary, Contents.find?, hasType, modernType]
    exact lost "float" "uv" (by simp) found (by decide)
  · rw [show upgraded odd = _ from third ..]
    have found : odd.contents.find? (hasType "point2" "st") =
        some ⟨"point2", "st", .unknown, [0, 0, 1], [], [], false, none⟩ := by
      simp [odd, Writer.dictionary, Contents.find?, hasType, modernType]
    exact lost "point2" "st" (by simp) found (by decide)

end Upgrade

end SceneScript
