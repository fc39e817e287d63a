import ChatFlow.Table
/-
What looking up, setting, removing and changing entries of a table have to do with each other.
-/

namespace ChatFlow.Table

variable {α β : Type}

theorem lookup?_put (name key : String) (value : α) (table : Table α) :
    lookup? name (put key value table) = if key = name then some value else lookup? name table := by
  induction table with
  | nil => rfl
  | cons entry rest ih =>
      obtain ⟨first, old⟩ := entry
      by_cases same : first = key
      · subst first
        simp only [put, if_pos, lookup?]
        split <;> rfl
      · simp only [put, if_neg same, lookup?, ih]
        by_cases found : first = name
        · have different : key ≠ name := fun equal => same (found.trans equal.symm)
          rw [if_pos found, if_neg different]
          simp only [if_pos found]
        · simp only [if_neg found]

@[simp]
theorem lookup?_put_self (name : String) (value : α) (table : Table α) :
    lookup? name (put name value table) = some value := by
  rw [lookup?_put, if_pos rfl]

theorem lookup?_remove (name key : String) (table : Table α) :
    lookup? name (remove key table) = if key = name then none else lookup? name table := by
  induction table with
  | nil => simp [remove, lookup?]
  | cons entry rest ih =>
      obtain ⟨first, old⟩ := entry
      unfold remove at ih ⊢
      by_cases same : first = key
      · subst first
        rw [List.filter_cons_of_neg (by simp), ih]
        by_cases found : key = name
        · rw [if_pos found, if_pos found]
        · simp only [if_neg found, lookup?]
      · rw [List.filter_cons_of_pos (by simpa using same)]
        simp only [lookup?, ih]
        by_cases found : first = name
        · have different : key ≠ name := fun equal => same (found.trans equal.symm)
          simp only [if_pos found, if_neg different]
        · simp only [if_neg found]

theorem lookup?_mapValues (name : String) (change : α → β) (table : Table α) :
    lookup? name (mapValues change table) = (lookup? name table).map change := by
  induction table with
  | nil => rfl
  | cons entry rest ih =>
      obtain ⟨first, old⟩ := entry
      unfold mapValues at ih ⊢
      simp only [List.map_cons, lookup?, ih]
      split <;> rfl

theorem mem_of_lookup? {name : String} {value : α} {table : Table α}
    (found : lookup? name table = some value) : (name, value) ∈ table := by
  induction table with
  | nil => cases found
  | cons entry rest ih =>
      obtain ⟨first, old⟩ := entry
      unfold lookup? at found
      split at found
      · next same =>
          subst first
          cases found
          exact List.mem_cons_self
      · exact List.mem_cons_of_mem _ (ih found)

theorem lookup?_eq_none_iff (name : String) (table : Table α) :
    lookup? name table = none ↔ name ∉ names table := by
  induction table with
  | nil => simp [lookup?, names]
  | cons entry rest ih =>
      obtain ⟨first, old⟩ := entry
      unfold names at ih ⊢
      by_cases same : first = name
      · simp [lookup?, same]
      · have reversed : name ≠ first := fun equal => same equal.symm
        simp [lookup?, same, reversed, ih]

theorem mem_put {name key : String} {value entry : α} {table : Table α}
    (member : (name, entry) ∈ put key value table) :
    (name = key ∧ entry = value) ∨ (name, entry) ∈ table := by
  induction table with
  | nil =>
      cases List.mem_singleton.mp member
      exact Or.inl ⟨rfl, rfl⟩
  | cons first rest ih =>
      obtain ⟨other, old⟩ := first
      unfold put at member
      split at member
      · next same =>
          rcases List.mem_cons.mp member with head | tail
          · cases head
            exact Or.inl ⟨same, rfl⟩
          · exact Or.inr (List.mem_cons_of_mem _ tail)
      · rcases List.mem_cons.mp member with head | tail
        · exact Or.inr (head ▸ List.mem_cons_self)
        · exact (ih tail).imp_right (List.mem_cons_of_mem _)

/-! ### Tables in which no name occurs twice -/

/-- Setting a name keeps the names that were there, and adds at most that name. -/
theorem mem_names_put (name key : String) (value : α) (table : Table α) :
    name ∈ names (put key value table) ↔ name = key ∨ name ∈ names table := by
  rw [← Decidable.not_iff_not, ← lookup?_eq_none_iff, not_or, ← lookup?_eq_none_iff, lookup?_put]
  by_cases same : key = name
  · simp [same]
  · have reversed : name ≠ key := fun equal => same equal.symm
    simp [same, reversed]

theorem names_put_nodup {table : Table α} (distinct : (names table).Nodup) (key : String)
    (value : α) : (names (put key value table)).Nodup := by
  induction table with
  | nil => simp [put, names]
  | cons entry rest ih =>
      obtain ⟨first, old⟩ := entry
      have parts : first ∉ names rest ∧ (names rest).Nodup := List.nodup_cons.mp distinct
      by_cases same : first = key
      · rw [put, if_pos same]
        exact List.nodup_cons.mpr parts
      · rw [put, if_neg same]
        refine List.nodup_cons.mpr ⟨fun present => ?_, ih parts.2⟩
        rcases (mem_names_put first key value rest).mp present with equal | inRest
        · exact same equal
        · exact parts.1 inRest

theorem names_mapValues (change : α → β) (table : Table α) :
    names (mapValues change table) = names table := by
  simp only [names, mapValues, List.map_map]
  rfl

theorem lookup?_of_mem {name : String} {value : α} {table : Table α}
    (distinct : (names table).Nodup) (member : (name, value) ∈ table) :
    lookup? name table = some value := by
  induction table with
  | nil => cases member
  | cons entry rest ih =>
      obtain ⟨first, old⟩ := entry
      have parts : first ∉ names rest ∧ (names rest).Nodup := List.nodup_cons.mp distinct
      rcases List.mem_cons.mp member with same | inRest
      · cases same
        simp only [lookup?, if_pos]
      · have present : name ∈ names rest := List.mem_map_of_mem (f := Prod.fst) inRest
        have different : first ≠ name := fun equal => parts.1 (equal ▸ present)
        simp only [lookup?, if_neg different]
        exact ih parts.2 inRest

/-- A new name is set at the end. -/
theorem put_of_not_mem {name : String} {table : Table α} (value : α) (new : name ∉ names table) :
    put name value table = table ++ [(name, value)] := by
  induction table with
  | nil => rfl
  | cons entry rest ih =>
      obtain ⟨other, others⟩ := not_or.mp (mt List.mem_cons.mpr new)
      rw [put, if_neg fun same => other same.symm, ih others]
      rfl

theorem putAll_of_nodup {settings table : Table α} (distinct : (names (table ++ settings)).Nodup) :
    putAll table settings = table ++ settings := by
  induction settings generalizing table with
  | nil => exact (List.append_nil table).symm
  | cons entry rest ih =>
      have new : entry.1 ∉ names table := by
        unfold names at distinct ⊢
        rw [List.map_append, List.nodup_append] at distinct
        exact fun present => distinct.2.2 _ present _ List.mem_cons_self rfl
      rw [List.append_cons] at distinct ⊢
      rw [← ih distinct, ← put_of_not_mem entry.2 new]
      rfl

/-- Settings of distinct names are a table as they stand. -/
theorem ofSettings_of_nodup {settings : Table α} (distinct : (names settings).Nodup) :
    ofSettings settings = settings :=
  @putAll_of_nodup _ settings [] distinct

end ChatFlow.Table
