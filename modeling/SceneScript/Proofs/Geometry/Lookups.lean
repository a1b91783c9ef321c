import Mathlib.Data.Set.Card
import SceneScript.Proofs.Geometry.TransformEquality
import SceneScript.Proofs.Scalar.DoubleEquality

/-!
# Lookups in a transform pool

Transforms are interned one after another (`afterLookups`, `handlesOf`). What a lookup returns is
what its transform finds in the pool from then on (`Finds`), since entries are added behind the
others only. So a handle stays good however the pool is used later, and colliding hashes never make
two transforms one.

If the hash function respects equality, handles tell transforms apart exactly as equality does, and
the pool has one entry for each class of equal transforms looked up (`lookup_contract`).
-/

set_option autoImplicit false

namespace SceneScript.TransformPool

variable {α : Type} [Scalar α] {hashOf : TransformHash α} {s t : Transform α} {h : Handle α}

/-! ## Finding in a list -/

theorem standsFor_iff {entry : Transform α} :
    standsFor hashOf t entry = true ↔ hashOf entry = hashOf t ∧ entry.same t = true := by
  rw [standsFor, Bool.and_eq_true, beq_iff_eq]

/-- What was found is found in a longer list. -/
theorem findFrom_append {slot : Nat} {entries : List (Transform α)}
    (found : findFrom hashOf t slot entries = some h) (more : List (Transform α)) :
    findFrom hashOf t slot (entries ++ more) = some h := by
  induction entries generalizing slot with
  | nil => exact absurd found (by simp [findFrom])
  | cons entry rest ih =>
    rw [findFrom] at found
    rw [List.cons_append, findFrom]
    split at found
    · exact (if_pos ‹_›).trans found
    · exact (if_neg ‹_›).trans (ih found)

/-- Behind a list in which nothing can stand for a transform, its own copy is found. -/
theorem findFrom_append_self {slot : Nat} {entries : List (Transform α)}
    (absent : findFrom hashOf t slot entries = none) (self : standsFor hashOf t t = true) :
    findFrom hashOf t slot (entries ++ [t]) = some ⟨slot + entries.length, t⟩ := by
  induction entries generalizing slot with
  | nil => exact if_pos self
  | cons entry rest ih =>
    rw [findFrom] at absent
    rw [List.cons_append, findFrom]
    split at absent
    · exact absurd absent (by simp)
    · rw [if_neg ‹_›, ih absent, List.length_cons, Nat.add_assoc, Nat.add_comm 1]

theorem standsFor_eq_false_of_findFrom {slot : Nat} {entries : List (Transform α)}
    (absent : findFrom hashOf t slot entries = none) :
    ∀ entry ∈ entries, standsFor hashOf t entry = false := by
  induction entries generalizing slot with
  | nil => simp
  | cons entry rest ih =>
    rw [findFrom] at absent
    split at absent
    · exact absurd absent (by simp)
    · rintro e (_ | ⟨_, mem⟩)
      · exact Bool.eq_false_iff.2 ‹_›
      · exact ih absent e mem

/-- What can stand for either of two transforms decides what is found for them. -/
theorem findFrom_congr (alike : ∀ entry, standsFor hashOf s entry = standsFor hashOf t entry)
    (slot : Nat) (entries : List (Transform α)) :
    findFrom hashOf s slot entries = findFrom hashOf t slot entries := by
  induction entries generalizing slot with
  | nil => rfl
  | cons entry rest ih => rw [findFrom, findFrom, alike, ih]

/-! ## Finding in a pool -/

/-- The pool has a copy that stands for the transform, and the first one has this handle. -/
def Finds (hashOf : TransformHash α) (p : TransformPool α) (t : Transform α) (h : Handle α) : Prop :=
  findFrom hashOf t 0 p.entries = some h

namespace Finds

variable {p q : TransformPool α}

theorem stored (found : p.Finds hashOf t h) : p.entries[h.slot]? = some h.transform :=
  (findFrom_eq_some found).2.2

theorem same (found : p.Finds hashOf t h) : h.transform.same t = true :=
  (standsFor_iff.1 (findFrom_eq_some found).1).2

theorem mono (found : p.Finds hashOf t h) (grown : p.entries <+: q.entries) :
    q.Finds hashOf t h := by
  obtain ⟨more, entries⟩ := grown
  rw [Finds, ← entries]
  exact findFrom_append found more

/-- Looking up a transform that is found returns its handle. -/
theorem intern_eq (found : p.Finds hashOf t h) :
    p.intern hashOf t = (h, { p with lookups := p.lookups + 1, hits := p.hits + 1 }) := by
  unfold Finds at found
  simp only [intern, found]

variable [LawfulEquality α]

/-- A pooled transform is found under itself, too. -/
theorem self (found : p.Finds hashOf t h) : p.Finds hashOf h.transform h := by
  obtain ⟨hash, same⟩ := standsFor_iff.1 (findFrom_eq_some found).1
  refine (findFrom_congr (fun entry => ?_) 0 p.entries).trans found
  rw [standsFor, standsFor, hash, Transform.same_congr_right same]

/-- Where the hash respects equality, transforms find the same copy if and only if they are the
same. -/
theorem slot_eq_iff (respects : Respects hashOf) {g : Handle α} (foundS : p.Finds hashOf s g)
    (foundT : p.Finds hashOf t h) :
    (g.slot = h.slot ↔ s.same t = true) ∧ (g = h ↔ s.same t = true) := by
  have same_of_eq : g.transform = h.transform → s.same t = true := fun eq =>
    Transform.same_trans (Transform.same_symm foundS.same) (eq ▸ foundT.same)
  have eq_of_same : s.same t = true → g = h := by
    intro same
    have alike : ∀ entry, standsFor hashOf s entry = standsFor hashOf t entry := by
      intro entry
      rw [standsFor, standsFor, respects s t same, Transform.same_congr_right same]
    have found := findFrom_congr alike 0 p.entries
    exact Option.some.inj (foundS.symm.trans (found.trans foundT))
  refine ⟨⟨fun slots => same_of_eq ?_, fun same => congrArg Handle.slot (eq_of_same same)⟩,
    ⟨fun handles => same_of_eq (congrArg Handle.transform handles), eq_of_same⟩⟩
  have stored := foundS.stored
  rw [slots, foundT.stored] at stored
  exact (Option.some.inj stored).symm

end Finds

/-! ## One lookup -/

section Intern

variable (p : TransformPool α)

/-- A lookup finds the transform, or adds it behind the others. -/
theorem intern_cases (hashOf : TransformHash α) (t : Transform α) :
    (∃ h, p.Finds hashOf t h ∧
      p.intern hashOf t = (h, { p with lookups := p.lookups + 1, hits := p.hits + 1 })) ∨
    (findFrom hashOf t 0 p.entries = none ∧
      p.intern hashOf t =
        (⟨p.size, t⟩, { p with entries := p.entries ++ [t], lookups := p.lookups + 1 })) := by
  cases found : findFrom hashOf t 0 p.entries with
  | some h => exact Or.inl ⟨h, found, Finds.intern_eq found⟩
  | none => exact Or.inr ⟨rfl, by simp only [intern, found]⟩

theorem entries_intern (hashOf : TransformHash α) (t : Transform α) :
    p.entries <+: (p.intern hashOf t).2.entries := by
  rcases p.intern_cases hashOf t with ⟨h, -, run⟩ | ⟨-, run⟩
  · rw [run]
  · rw [run]
    exact List.prefix_append _ _

theorem lookups_intern (hashOf : TransformHash α) (t : Transform α) :
    (p.intern hashOf t).2.lookups = p.lookups + 1 := by
  rcases p.intern_cases hashOf t with ⟨h, -, run⟩ | ⟨-, run⟩ <;> rw [run]

theorem counted_intern (hashOf : TransformHash α) (t : Transform α)
    (counted : p.lookups = p.hits + p.size) :
    (p.intern hashOf t).2.lookups = (p.intern hashOf t).2.hits + (p.intern hashOf t).2.size := by
  rcases p.intern_cases hashOf t with ⟨h, -, run⟩ | ⟨-, run⟩
  · rw [run]
    simp only [counted, size, Nat.add_right_comm]
  · rw [run]
    simp only [counted, size, List.length_append, List.length_singleton, Nat.add_assoc]

theorem mem_of_mem_intern (hashOf : TransformHash α) (t : Transform α) {e : Transform α}
    (mem : e ∈ (p.intern hashOf t).2.entries) : e ∈ p.entries ∨ e = t := by
  rcases p.intern_cases hashOf t with ⟨h, -, run⟩ | ⟨-, run⟩
  · rw [run] at mem
    exact Or.inl mem
  · rw [run] at mem
    exact (List.mem_append.1 mem).imp_right List.mem_singleton.1

/-- A new entry is one that no entry before it can stand for. -/
theorem pairwise_intern (hashOf : TransformHash α) (t : Transform α)
    (apart : p.entries.Pairwise (fun d e => standsFor hashOf e d = false)) :
    (p.intern hashOf t).2.entries.Pairwise (fun d e => standsFor hashOf e d = false) := by
  rcases p.intern_cases hashOf t with ⟨h, -, run⟩ | ⟨absent, run⟩
  · rw [run]
    exact apart
  · rw [run]
    refine List.pairwise_append.2 ⟨apart, List.pairwise_singleton _ _, ?_⟩
    intro d hd e he
    rw [List.mem_singleton.1 he]
    exact standsFor_eq_false_of_findFrom absent d hd

/-- What a lookup returns is what its transform finds from then on. -/
theorem finds_intern [LawfulEquality α] (hashOf : TransformHash α) (t : Transform α) :
    (p.intern hashOf t).2.Finds hashOf t (p.intern hashOf t).1 := by
  rcases p.intern_cases hashOf t with ⟨h, found, run⟩ | ⟨absent, run⟩
  · rw [run]
    exact found
  · rw [run]
    have self : standsFor hashOf t t = true := standsFor_iff.2 ⟨rfl, t.same_refl⟩
    refine (findFrom_append_self absent self).trans ?_
    rw [Nat.zero_add, size]

end Intern

/-! ## Lookups in turn -/

/-- The pool after transforms were looked up in turn. -/
def afterLookups (hashOf : TransformHash α) (p : TransformPool α) (ts : List (Transform α)) :
    TransformPool α :=
  ts.foldl (fun p t => (p.intern hashOf t).2) p

/-- The handles that the lookups of transforms in turn return. -/
def handlesOf (hashOf : TransformHash α) : TransformPool α → List (Transform α) → List (Handle α)
  | _, [] => []
  | p, t :: rest => (p.intern hashOf t).1 :: handlesOf hashOf (p.intern hashOf t).2 rest

section Lookups

variable (p : TransformPool α) (ts : List (Transform α))

theorem afterLookups_cons (t : Transform α) :
    afterLookups hashOf p (t :: ts) = afterLookups hashOf (p.intern hashOf t).2 ts := rfl

theorem length_handlesOf : (handlesOf hashOf p ts).length = ts.length := by
  induction ts generalizing p with
  | nil => rfl
  | cons t rest ih => rw [handlesOf, List.length_cons, List.length_cons, ih]

theorem entries_afterLookups : p.entries <+: (afterLookups hashOf p ts).entries := by
  induction ts generalizing p with
  | nil => exact List.prefix_rfl
  | cons t rest ih => exact (p.entries_intern hashOf t).trans (ih _)

theorem lookups_afterLookups : (afterLookups hashOf p ts).lookups = p.lookups + ts.length := by
  induction ts generalizing p with
  | nil => rfl
  | cons t rest ih =>
    rw [afterLookups_cons, ih, lookups_intern, List.length_cons, Nat.add_assoc, Nat.add_comm 1]

/-- Every lookup is counted, as a hit or else by a new entry. -/
theorem counted_afterLookups (counted : p.lookups = p.hits + p.size) :
    (afterLookups hashOf p ts).lookups =
      (afterLookups hashOf p ts).hits + (afterLookups hashOf p ts).size := by
  induction ts generalizing p with
  | nil => exact counted
  | cons t rest ih => exact ih _ (counted_intern p hashOf t counted)

/-- An entry was there before or was looked up. -/
theorem mem_of_mem_afterLookups {e : Transform α} (mem : e ∈ (afterLookups hashOf p ts).entries) :
    e ∈ p.entries ∨ e ∈ ts := by
  induction ts generalizing p with
  | nil => exact Or.inl mem
  | cons t rest ih =>
    rcases ih _ mem with old | new
    · refine (mem_of_mem_intern p hashOf t old).imp_right fun same => ?_
      exact same ▸ List.mem_cons_self
    · exact Or.inr (List.mem_cons_of_mem t new)

/-- No entry can stand for one behind it. -/
theorem pairwise_afterLookups
    (apart : p.entries.Pairwise (fun d e => standsFor hashOf e d = false)) :
    (afterLookups hashOf p ts).entries.Pairwise (fun d e => standsFor hashOf e d = false) := by
  induction ts generalizing p with
  | nil => exact apart
  | cons t rest ih => exact ih _ (pairwise_intern p hashOf t apart)

variable {ts} in
/-- Where the hash respects equality, no two entries of a pool are the same. -/
theorem different_afterLookups (respects : Respects hashOf) :
    (afterLookups hashOf .empty ts).entries.Pairwise (fun d e => d.same e = false) := by
  have apart : (afterLookups hashOf .empty ts).entries.Pairwise
      (fun d e => standsFor hashOf e d = false) :=
    pairwise_afterLookups .empty ts List.Pairwise.nil
  apply apart.imp
  intro d e unlike
  refine Bool.eq_false_iff.2 fun same => ?_
  have stands : standsFor hashOf e d = true := standsFor_iff.2 ⟨respects d e same, same⟩
  exact absurd stands (by simp [unlike])

variable [LawfulEquality α]

variable {ts} in
/-- The handle that the lookup in place `i` returned is what its transform finds at any later
time. -/
theorem finds_of_getElem?_handlesOf {i k : Nat} (now : (handlesOf hashOf p ts)[i]? = some h)
    (later : i < k) :
    ∃ t, ts[i]? = some t ∧ (afterLookups hashOf p (ts.take k)).Finds hashOf t h := by
  induction ts generalizing p i k with
  | nil => exact absurd now (by simp [handlesOf])
  | cons t rest ih =>
    obtain ⟨k, rfl⟩ : ∃ m, k = m + 1 := ⟨k - 1, by omega⟩
    cases i with
    | zero =>
      obtain rfl : (p.intern hashOf t).1 = h := Option.some.inj now
      exact ⟨t, rfl, (p.finds_intern hashOf t).mono (entries_afterLookups _ _)⟩
    | succ i =>
      obtain ⟨u, place, found⟩ := ih _ now (Nat.lt_of_succ_lt_succ later)
      exact ⟨u, place, found⟩

variable {ts} in
/-- Whatever was looked up is found. -/
theorem finds_of_mem (mem : t ∈ ts) : ∃ h, (afterLookups hashOf p ts).Finds hashOf t h := by
  induction ts generalizing p with
  | nil => exact absurd mem List.not_mem_nil
  | cons u rest ih =>
    rcases List.mem_cons.1 mem with rfl | later
    · exact ⟨_, (p.finds_intern hashOf t).mono (entries_afterLookups _ _)⟩
    · exact ih _ later

end Lookups

/-! ## Classes of equal transforms -/

section Classes

variable [LawfulEquality α] {es ts : List (Transform α)}

/-- The classes that transforms belong to are as many as pairwise different transforms among them
that every one is the same as. -/
theorem ncard_classes (apart : es.Pairwise (fun d e => d.same e = false))
    (within : ∀ e ∈ es, e ∈ ts) (covers : ∀ t ∈ ts, ∃ e ∈ es, e.same t = true) :
    {c | ∃ t ∈ ts, Quotient.mk (Transform.sameSetoid α) t = c}.ncard = es.length := by
  classical
  have nodup : (es.map (Quotient.mk (Transform.sameSetoid α))).Nodup := by
    refine List.pairwise_map.2 (apart.imp fun {d e} different equal => ?_)
    have same : d.same e = true := Quotient.exact (s := Transform.sameSetoid α) equal
    exact absurd same (by simp [different])
  have classes : {c | ∃ t ∈ ts, Quotient.mk (Transform.sameSetoid α) t = c} =
      ((es.map (Quotient.mk (Transform.sameSetoid α))).toFinset : Set _) := by
    ext c
    simp only [Set.mem_ofPred_eq, Finset.mem_coe, List.mem_toFinset, List.mem_map]
    constructor
    · rintro ⟨t, ht, rfl⟩
      obtain ⟨e, he, same⟩ := covers t ht
      exact ⟨e, he, Quotient.sound (s := Transform.sameSetoid α) same⟩
    · rintro ⟨e, he, rfl⟩
      exact ⟨e, within e he, rfl⟩
  rw [classes, Set.ncard_coe_finset, List.toFinset_card_of_nodup nodup, List.length_map]

/-- Where the hash respects equality, a pool has one entry for each class looked up. -/
theorem size_afterLookups (respects : Respects hashOf) :
    (afterLookups hashOf .empty ts).size =
      {c | ∃ t ∈ ts, Quotient.mk (Transform.sameSetoid α) t = c}.ncard := by
  symm
  apply ncard_classes (different_afterLookups respects)
  · intro e he
    exact (mem_of_mem_afterLookups .empty ts he).resolve_left List.not_mem_nil
  · intro t ht
    obtain ⟨h, found⟩ := finds_of_mem .empty ht
    exact ⟨h.transform, List.mem_of_getElem? found.stored, found.same⟩

end Classes

/-! ## The contract of lookups -/

variable [LawfulEquality α]

/-- Transforms looked up in turn in an empty pool. Every lookup returns a transform that is the same
as its argument, and from then on the handle stays in its place and is what is returned for that
argument and for the pooled transform itself. Every lookup is a hit or makes an entry.

If the hash function respects equality, two lookups return the same handle if and only if their
arguments are the same, no two entries are, and there are as many entries as classes of equal
arguments. The standard hash function does respect it. -/
theorem lookup_contract (hashOf : TransformHash α) (ts : List (Transform α)) :
    let handles := handlesOf hashOf .empty ts
    let pool := afterLookups hashOf .empty ts
    handles.length = ts.length ∧
      (∀ (i : Nat) t h, ts[i]? = some t → handles[i]? = some h → h.transform.same t = true ∧
        ∀ k, i < k →
          (afterLookups hashOf .empty (ts.take k)).entries[h.slot]? = some h.transform ∧
          ((afterLookups hashOf .empty (ts.take k)).intern hashOf t).1 = h ∧
          ((afterLookups hashOf .empty (ts.take k)).intern hashOf h.transform).1 = h) ∧
      pool.lookups = ts.length ∧
      pool.lookups = pool.hits + pool.size ∧
      (Respects hashOf →
        (∀ (i j : Nat) s t g h, ts[i]? = some s → ts[j]? = some t → handles[i]? = some g →
          handles[j]? = some h →
          (g.slot = h.slot ↔ s.same t = true) ∧ (g = h ↔ s.same t = true)) ∧
        pool.entries.Pairwise (fun d e => d.same e = false) ∧
        pool.size = {c | ∃ t ∈ ts, Quotient.mk (Transform.sameSetoid α) t = c}.ncard) ∧
      Respects (standardHash (α := α)) := by
  intro handles pool
  have finds {i : Nat} {t : Transform α} {h : Handle α} (arg : ts[i]? = some t)
      (result : handles[i]? = some h) {k : Nat} (later : i < k) :
      (afterLookups hashOf .empty (ts.take k)).Finds hashOf t h := by
    obtain ⟨u, place, found⟩ := finds_of_getElem?_handlesOf .empty result later
    obtain rfl : t = u := Option.some.inj (arg.symm.trans place)
    exact found
  have findsLast {i : Nat} {t : Transform α} {h : Handle α} (arg : ts[i]? = some t)
      (result : handles[i]? = some h) : pool.Finds hashOf t h := by
    have inside : i < ts.length := (List.getElem?_eq_some_iff.1 arg).1
    have found := finds arg result inside
    rwa [List.take_length] at found
  have number : pool.lookups = ts.length := (lookups_afterLookups .empty ts).trans (Nat.zero_add _)
  refine ⟨length_handlesOf _ _, ?_, number, counted_afterLookups .empty ts rfl, ?_,
    respects_standardHash⟩
  · intro i t h arg result
    refine ⟨(findsLast arg result).same, fun k later => ?_⟩
    have found := finds arg result later
    exact ⟨found.stored, congrArg Prod.fst found.intern_eq, congrArg Prod.fst found.self.intern_eq⟩
  · intro respects
    refine ⟨fun i j s t g h argS argT resultS resultT => ?_, different_afterLookups respects,
      size_afterLookups respects⟩
    exact (findsLast argS resultS).slot_eq_iff respects (findsLast argT resultT)

/-- Control: two moves whose hashes collide, and the first one again with the other zero. -/
theorem lookup_contract_colliding :
    let hashOf : TransformHash Float := fun _ => 42
    let ts : List (Transform Float) :=
      [.translate ⟨1, 0, 0⟩, .translate ⟨2, 0, 0⟩, .translate ⟨1, 0, -0.0⟩]
    let handles := handlesOf hashOf .empty ts
    Respects hashOf ∧ LawfulEquality Float ∧
      ∃ g h k, handles = [g, h, k] ∧ g.slot ≠ h.slot ∧ g = k ∧
        (afterLookups hashOf .empty ts).lookups = 3 := by
  intro hashOf ts handles
  have respects : Respects hashOf := fun _ _ _ => rfl
  obtain ⟨-, -, lookups, -, distinguishes, -⟩ := lookup_contract hashOf ts
  obtain ⟨identical, -, -⟩ := distinguishes respects
  have apart : (Transform.translate ⟨1, 0, 0⟩).same (Transform.translate (α := Float) ⟨2, 0, 0⟩) =
      false := by decide
  have together : (Transform.translate ⟨1, 0, 0⟩).same
      (Transform.translate (α := Float) ⟨1, 0, -0.0⟩) = true := by decide
  refine ⟨respects, inferInstance, _, _, _, rfl, ?_, ?_, lookups⟩
  · intro slots
    have same := (identical 0 1 _ _ _ _ rfl rfl rfl rfl).1.1 slots
    exact absurd same (by rw [apart]; exact Bool.false_ne_true)
  · exact (identical 0 2 _ _ _ _ rfl rfl rfl rfl).2.2 together

end SceneScript.TransformPool
