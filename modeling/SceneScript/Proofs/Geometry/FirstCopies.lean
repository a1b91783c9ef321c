import SceneScript.Proofs.Geometry.Lookups

/-!
# First copies

Transforms are compared by their forward matrices, but a transform also has the inverse that was
built up with it, and two ways to one forward matrix may lead to inverses that differ in their last
bits. Of such transforms a pool keeps the first one. So a lookup returns the forward matrix that it
was given, and with it the inverse of the first transform that came with this matrix
(`find?_of_getElem?_handlesOf`).

The entries of a pool need not be looked at for this: what is found among them is what is found
among all transforms that were ever looked up (`find?_afterLookups`).
-/

set_option autoImplicit false

namespace SceneScript.TransformPool

variable {α : Type} [Scalar α] {hashOf : TransformHash α} {t u e : Transform α} {h : Handle α}

/-- The transform that is found, its place aside. -/
theorem map_transform_findFrom (slot : Nat) (entries : List (Transform α)) :
    (findFrom hashOf t slot entries).map (·.transform) = entries.find? (standsFor hashOf t) := by
  induction entries generalizing slot with
  | nil => rfl
  | cons entry rest ih =>
    rw [findFrom, List.find?_cons]
    cases fits : standsFor hashOf t entry with
    | true => rfl
    | false => exact ih (slot + 1)

theorem Finds.find?_eq {p : TransformPool α} (found : p.Finds hashOf t h) :
    p.entries.find? (standsFor hashOf t) = some h.transform := by
  rw [← map_transform_findFrom 0, found]
  rfl

variable [LawfulEquality α]

theorem standsFor_trans (first : standsFor hashOf u e = true)
    (second : standsFor hashOf t u = true) : standsFor hashOf t e = true := by
  obtain ⟨hash, same⟩ := standsFor_iff.1 first
  obtain ⟨hash', same'⟩ := standsFor_iff.1 second
  exact standsFor_iff.2 ⟨hash.trans hash', Transform.same_trans same same'⟩

section Lookups

variable (p : TransformPool α)

/-- A lookup returns the first transform that can stand for the one looked up: one of the pool, or
else this one itself. -/
theorem find?_concat_self (t : Transform α) :
    (p.entries ++ [t]).find? (standsFor hashOf t) = some (p.intern hashOf t).1.transform := by
  rw [List.find?_append]
  rcases p.intern_cases hashOf t with ⟨h, found, run⟩ | ⟨absent, run⟩
  · rw [found.find?_eq, run, Option.some_or]
  · have self : standsFor hashOf t t = true := standsFor_iff.2 ⟨rfl, t.same_refl⟩
    rw [← map_transform_findFrom 0, absent, run, Option.map_none, Option.none_or,
      List.find?_cons_of_pos self]

/-- Whether a transform joined the pool or was found there makes no difference to what is found
later. -/
theorem find?_intern (u : Transform α) (more : List (Transform α)) :
    ((p.intern hashOf u).2.entries ++ more).find? (standsFor hashOf t) =
      (p.entries ++ u :: more).find? (standsFor hashOf t) := by
  rcases p.intern_cases hashOf u with ⟨h, found, run⟩ | ⟨-, run⟩
  · rw [run, List.find?_append, List.find?_append]
    cases fits : standsFor hashOf t u with
    | false => rw [List.find?_cons_of_neg (by simp [fits])]
    | true =>
      -- what was found for `u` is in the pool and can stand for `t`, too
      have stands := standsFor_trans (findFrom_eq_some found).1 fits
      have there : (p.entries.find? (standsFor hashOf t)).isSome = true :=
        List.find?_isSome.2 ⟨h.transform, List.mem_of_getElem? found.stored, stands⟩
      obtain ⟨first, found'⟩ := Option.isSome_iff_exists.1 there
      rw [found', Option.some_or, Option.some_or]
  · rw [run, List.append_assoc, List.singleton_append]

/-- What is found among the entries of a pool is what is found among the transforms looked up. -/
theorem find?_afterLookups (ts more : List (Transform α)) :
    ((afterLookups hashOf p ts).entries ++ more).find? (standsFor hashOf t) =
      (p.entries ++ (ts ++ more)).find? (standsFor hashOf t) := by
  induction ts generalizing p with
  | nil => rfl
  | cons u rest ih =>
    rw [afterLookups_cons, ih, find?_intern]
    rfl

omit [LawfulEquality α] in
/-- A lookup in a run is a lookup in the pool that the lookups before it left. -/
theorem getElem?_handlesOf {ts : List (Transform α)} {i : Nat} (arg : ts[i]? = some t) :
    (handlesOf hashOf p ts)[i]? =
      some ((afterLookups hashOf p (ts.take i)).intern hashOf t).1 := by
  induction ts generalizing p i with
  | nil => exact absurd arg (by simp)
  | cons u rest ih =>
    cases i with
    | zero =>
      obtain rfl : u = t := Option.some.inj arg
      rfl
    | succ i => exact ih _ arg

/-- The lookup in place `i` returns the first transform in the pool, or looked up until then, that
can stand for its own. -/
theorem find?_of_getElem?_handlesOf {ts : List (Transform α)} {i : Nat}
    (arg : ts[i]? = some t) (result : (handlesOf hashOf p ts)[i]? = some h) :
    (p.entries ++ ts.take (i + 1)).find? (standsFor hashOf t) = some h.transform := by
  have last : ts.take (i + 1) = ts.take i ++ [t] := by rw [List.take_add_one, arg]; rfl
  obtain rfl := Option.some.inj (result.symm.trans (getElem?_handlesOf p arg))
  rw [last, ← find?_afterLookups, find?_concat_self]

end Lookups

end SceneScript.TransformPool
