import LineCommands.NameMap
/-!
# Name maps through their view

A `NameMap` is read through `find?`, the value stored under a name. This module says what
each operation does to that view.

`insert` and `erase` act on the view as a point update (`find?_insert`, `find?_erase`).
`filterValues` leans on the order the map carries: each name occurs once, so a filter cannot
uncover a second entry hidden behind the first, and `find?` after `filterValues` is the
filtered value (`find?_filterValues`). A name is listed exactly when the view holds it
(`mem_keys_iff`).
-/

namespace LineCommands

namespace NameMap

variable {α : Type}

/-! ## The view, entry by entry -/

@[simp] theorem find?_mk_nil (k : String) (h : (([] : List (String × α)).map (·.1)).Pairwise (· < ·)) :
    find? (⟨[], h⟩ : NameMap α) k = none := rfl

/-- The entries after the first are in order too. -/
theorem sorted_tail {e : String × α} {l : List (String × α)}
    (h : ((e :: l).map (·.1)).Pairwise (· < ·)) : (l.map (·.1)).Pairwise (· < ·) :=
  (List.pairwise_cons.1 h).2

@[simp] theorem find?_mk_cons (e : String × α) (l : List (String × α))
    (h : ((e :: l).map (·.1)).Pairwise (· < ·)) (k : String) :
    find? ⟨e :: l, h⟩ k = if e.1 = k then some e.2 else find? ⟨l, sorted_tail h⟩ k := by
  by_cases h' : e.1 = k <;> simp [find?, h']

@[simp] theorem find?_empty (k : String) : (empty : NameMap α).find? k = none := rfl

theorem contains_eq_true_iff (m : NameMap α) (k : String) :
    m.contains k = true ↔ m.find? k ≠ none := by
  simp [contains, Option.isSome_iff_ne_none]

/-- The first name of a map occurs nowhere after it. -/
theorem head_not_mem_keys {e : String × α} {l : List (String × α)}
    (h : ((e :: l).map (·.1)).Pairwise (· < ·)) : e.1 ∉ l.map (·.1) :=
  fun hm => String.lt_irrefl _ ((List.pairwise_cons.1 h).1 _ hm)

theorem find?_eq_none_of_not_mem {m : NameMap α} {k : String} (h : k ∉ m.keys) :
    m.find? k = none := by
  obtain ⟨l, hl⟩ := m
  induction l with
  | nil => rfl
  | cons e l ih =>
    simp only [keys, List.map_cons, List.mem_cons, not_or] at h
    simp [Ne.symm h.1, ih (sorted_tail hl) h.2]

/-! ## Point updates -/

theorem find?_insert (m : NameMap α) (k : String) (v : α) (j : String) :
    (m.insert k v).find? j = if k = j then some v else m.find? j := by
  obtain ⟨l, hl⟩ := m
  induction l with
  | nil => simp [insert, insertSorted]
  | cons e l ih =>
    have ih := ih (sorted_tail hl)
    simp only [insert] at ih
    -- before `e`, in place of `e`, or past `e`; only the last case reaches the recursion
    by_cases hlt : k < e.1
    · simp [insert, insertSorted, hlt]
    · by_cases heq : k = e.1
      · subst heq
        by_cases hj : e.1 = j <;> simp [insert, insertSorted, hj]
      · by_cases hej : e.1 = j
        · subst hej
          simp [insert, insertSorted, hlt, heq]
        · simp [insert, insertSorted, hlt, heq, hej, ih]

theorem find?_erase (m : NameMap α) (k j : String) :
    (m.erase k).find? j = if k = j then none else m.find? j := by
  obtain ⟨l, hl⟩ := m
  induction l with
  | nil => simp [erase]
  | cons e l ih =>
    have ih := ih (sorted_tail hl)
    simp only [erase, List.filter_cons] at ih ⊢
    by_cases hek : e.1 = k
    · subst hek
      by_cases hj : e.1 = j
      · subst hj
        simpa using ih
      · simp [hj, ih]
    · by_cases hej : e.1 = j
      · subst hej; simp [hek, Ne.symm hek]
      · simp [hek, hej, ih]

/-! ## Filters and names -/

theorem find?_filterValues (m : NameMap α) (p : α → Bool) (k : String) :
    (m.filterValues p).find? k = (m.find? k).filter p := by
  obtain ⟨l, hl⟩ := m
  induction l with
  | nil => rfl
  | cons e l ih =>
    have ih := ih (sorted_tail hl)
    simp only [filterValues, List.filter_cons] at ih ⊢
    by_cases hp : p e.2
    · by_cases hek : e.1 = k <;> simp [hp, hek, ih, Option.filter_some]
    · by_cases hek : e.1 = k
      · -- the dropped entry was the only one of its name
        subst hek
        have hnone : find? ⟨l, sorted_tail hl⟩ e.1 = none :=
          find?_eq_none_of_not_mem (head_not_mem_keys hl)
        simp [hp, ih, hnone, Option.filter_some]
      · simp [hp, hek, ih]

theorem mem_keys_iff (m : NameMap α) (k : String) : k ∈ m.keys ↔ m.find? k ≠ none := by
  obtain ⟨l, hl⟩ := m
  induction l with
  | nil => simp [keys]
  | cons e l ih =>
    have ih := ih (sorted_tail hl)
    simp only [keys, List.map_cons, List.mem_cons] at ih ⊢
    by_cases hek : e.1 = k
    · simp [hek]
    · simp [hek, Ne.symm hek, ih]

end NameMap

end LineCommands
