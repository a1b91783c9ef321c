/-!
# Registries

Things that a scene knows by name. A registry keeps the order in which names were first given, and
putting a thing under a name replaces what was there.
-/

set_option autoImplicit false

namespace SceneScript

/-- Things by name, in the order in which their names were first given. -/
structure Registry (β : Type) where
  entries : List (String × β)

namespace Registry

variable {β : Type}

/-- A registry of nothing. -/
def empty : Registry β := ⟨[]⟩

/-- The thing under a name. -/
def find? (r : Registry β) (name : String) : Option β :=
  r.entries.lookup name

/-- Whether there is something under a name. -/
def contains (r : Registry β) (name : String) : Bool :=
  (r.find? name).isSome

/-- The list with a thing put under a name, in the place of what was there or else at the end. -/
def insertInto (name : String) (thing : β) : List (String × β) → List (String × β)
  | [] => [(name, thing)]
  | e :: rest => if e.1 = name then (name, thing) :: rest else e :: insertInto name thing rest

/-- The registry with a thing put under a name. -/
def insert (r : Registry β) (name : String) (thing : β) : Registry β :=
  ⟨insertInto name thing r.entries⟩

/-- The number of names. -/
def size (r : Registry β) : Nat :=
  r.entries.length

@[simp] theorem find?_empty (name : String) : (empty : Registry β).find? name = none := rfl

/-- There is something under a name if and only if it is the name of an entry. -/
theorem contains_iff {r : Registry β} {name : String} :
    r.contains name = true ↔ ∃ e ∈ r.entries, e.1 = name := by
  rw [contains, find?, List.lookup_isSome_iff]
  simp only [beq_iff_eq, eq_comm (a := name)]

theorem lookup_insertInto (name other : String) (thing : β) (entries : List (String × β)) :
    (insertInto name thing entries).lookup other =
      if other = name then some thing else entries.lookup other := by
  induction entries with
  | nil =>
    by_cases h : other = name
    · simp [insertInto, h]
    · have hne : (other == name) = false := by simpa using h
      rw [insertInto, List.lookup_cons, hne, if_neg h]
  | cons e rest ih =>
    obtain ⟨key, value⟩ := e
    by_cases hk : key = name
    · subst hk
      by_cases h : other = key
      · simp [insertInto, h]
      · have hne : (other == key) = false := by simpa using h
        simp [insertInto, List.lookup_cons, h, hne]
    · by_cases ho : other = key
      · subst ho
        simp [insertInto, hk]
      · have hne : (other == key) = false := by simpa using ho
        simp [insertInto, List.lookup_cons, hk, hne, ih]

/-- After putting a thing under a name, the name stands for it and other names for what they stood
for before. -/
theorem find?_insert (r : Registry β) (name other : String) (thing : β) :
    (r.insert name thing).find? other = if other = name then some thing else r.find? other :=
  lookup_insertInto name other thing r.entries

theorem insertInto_of_new {name : String} {entries : List (String × β)} (thing : β)
    (new : ∀ e ∈ entries, e.1 ≠ name) :
    insertInto name thing entries = entries ++ [(name, thing)] := by
  induction entries with
  | nil => rfl
  | cons e rest ih =>
    have other : e.1 ≠ name := new e List.mem_cons_self
    have others : insertInto name thing rest = rest ++ [(name, thing)] :=
      ih fun f hf => new f (List.mem_cons_of_mem _ hf)
    simp [insertInto, other, others]

/-- What is put under a new name comes last. -/
theorem entries_insert_of_new {r : Registry β} {name : String} (thing : β)
    (new : r.contains name = false) :
    (r.insert name thing).entries = r.entries ++ [(name, thing)] := by
  refine insertInto_of_new thing fun e he same => ?_
  rw [contains_iff.2 ⟨e, he, same⟩] at new
  exact absurd new (by simp)

/-- What a name stands for is an entry under that name. -/
theorem mem_of_find?_eq_some {r : Registry β} {name : String} {thing : β}
    (found : r.find? name = some thing) : (name, thing) ∈ r.entries := by
  obtain ⟨entries⟩ := r
  induction entries with
  | nil => exact absurd found (by simp [find?])
  | cons e rest ih =>
    obtain ⟨key, value⟩ := e
    rw [find?, List.lookup_cons] at found
    split at found
    · rename_i same
      obtain rfl := eq_of_beq same
      obtain rfl := Option.some.inj found
      exact List.mem_cons_self
    · exact List.mem_cons_of_mem _ (ih found)

end Registry

end SceneScript
