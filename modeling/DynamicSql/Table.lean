import DynamicSql.Text.Basic

/-!
# Tables

A table maps names to contents and lists its entries in the order of the names, by code point.
That order is part of the type, so a table is determined by its entries and printing one needs no
sorting. Each operation is described by what `get?` finds afterwards.
-/

namespace DynamicSql

/-- A finite map from names, listed in ascending order. -/
structure Table (α : Type) where
  /-- The entries, by name. -/
  toList : List (Text × α)
  /-- Every name is less than all that follow it. -/
  sorted : toList.Pairwise (fun a b => a.1 < b.1)

namespace Table

variable {α : Type}

/-! ## Sorted lists of entries -/

/-- What the first entry of that name holds. -/
def lookup (name : Text) : List (Text × α) → Option α
  | [] => none
  | (other, x) :: rest => if name = other then some x else lookup name rest

/-- Puts an entry at its place, over an entry with the same name. -/
def insertEntry (name : Text) (value : α) : List (Text × α) → List (Text × α)
  | [] => [(name, value)]
  | (other, x) :: rest =>
    if name < other then (name, value) :: (other, x) :: rest
    else if name = other then (name, value) :: rest
    else (other, x) :: insertEntry name value rest

theorem name_of_mem_insertEntry {name : Text} {value : α} {l : List (Text × α)} {e : Text × α}
    (h : e ∈ insertEntry name value l) : e = (name, value) ∨ e ∈ l := by
  induction l with
  | nil => simpa [insertEntry] using h
  | cons hd rest ih =>
    obtain ⟨other, x⟩ := hd
    simp only [insertEntry] at h
    split at h
    · simpa using h
    · split at h
      · rcases List.mem_cons.1 h with h | h
        · exact .inl h
        · exact .inr (List.mem_cons_of_mem _ h)
      · rcases List.mem_cons.1 h with rfl | h
        · exact .inr List.mem_cons_self
        · exact (ih h).imp_right (List.mem_cons_of_mem _)

theorem lt_of_not_lt_of_ne {a b : Text} (h : ¬ a < b) (hne : a ≠ b) : b < a := by
  rcases Decidable.em (b < a) with h' | h'
  · exact h'
  · exact absurd (List.le_antisymm (List.not_lt.1 h') (List.not_lt.1 h)) hne

theorem pairwise_insertEntry {name : Text} {value : α} {l : List (Text × α)}
    (h : l.Pairwise (fun a b => a.1 < b.1)) :
    (insertEntry name value l).Pairwise (fun a b => a.1 < b.1) := by
  induction l with
  | nil => simp [insertEntry]
  | cons hd rest ih =>
    obtain ⟨other, x⟩ := hd
    obtain ⟨hhd, hrest⟩ := List.pairwise_cons.1 h
    simp only [insertEntry]
    split
    · next hlt =>
      refine List.pairwise_cons.2 ⟨fun e he => ?_, h⟩
      rcases List.mem_cons.1 he with rfl | he
      · exact hlt
      · exact List.lt_trans hlt (hhd e he)
    · next hnlt =>
      split
      · next heq => exact List.pairwise_cons.2 ⟨fun e he => heq ▸ hhd e he, hrest⟩
      · next hne =>
        refine List.pairwise_cons.2 ⟨fun e he => ?_, ih hrest⟩
        rcases name_of_mem_insertEntry he with rfl | he
        · exact lt_of_not_lt_of_ne hnlt hne
        · exact hhd e he

/-! ## Operations -/

/-- The table without entries. -/
def empty : Table α := ⟨[], .nil⟩

/-- What the table holds under a name. -/
def get? (t : Table α) (name : Text) : Option α := lookup name t.toList

/-- Whether the table has an entry of that name. -/
def contains (t : Table α) (name : Text) : Bool := (t.get? name).isSome

/-- The table with an entry put in, over one of the same name. -/
def insert (t : Table α) (name : Text) (value : α) : Table α :=
  ⟨insertEntry name value t.toList, pairwise_insertEntry t.sorted⟩

/-- The table without the entry of that name. -/
def erase (t : Table α) (name : Text) : Table α :=
  ⟨t.toList.filter (fun e => e.1 ≠ name), t.sorted.filter _⟩

/-- The table of the given entries; of entries with the same name the last one counts. -/
def ofList (entries : List (Text × α)) : Table α :=
  entries.foldl (fun t (name, value) => t.insert name value) empty

/-! ## What is found -/

theorem lookup_insertEntry (name other : Text) (value : α) (l : List (Text × α)) :
    lookup other (insertEntry name value l) =
      if other = name then some value else lookup other l := by
  induction l with
  | nil => rfl
  | cons hd rest ih =>
    obtain ⟨key, x⟩ := hd
    simp only [insertEntry]
    split
    · rfl
    · split
      · next heq => subst heq; by_cases h : other = name <;> simp [lookup, h]
      · next hne =>
        simp only [lookup, ih]
        by_cases hk : other = key
        · subst hk; simp [Ne.symm hne]
        · simp [hk]

/-- **Insertion** changes what is found under its name and nothing else. -/
theorem get?_insert (t : Table α) (name other : Text) (value : α) :
    (t.insert name value).get? other = if other = name then some value else t.get? other :=
  lookup_insertEntry name other value t.toList

theorem lookup_filter_ne (name other : Text) (l : List (Text × α)) :
    lookup other (l.filter (fun e => e.1 ≠ name)) =
      if other = name then none else lookup other l := by
  induction l with
  | nil => simp [lookup]
  | cons hd rest ih =>
    obtain ⟨key, x⟩ := hd
    by_cases hk : key = name
    · subst hk
      rw [List.filter_cons_of_neg (by simp), ih]
      by_cases h : other = key <;> simp [lookup, h]
    · rw [List.filter_cons_of_pos (by simpa using hk)]
      simp only [lookup, ih]
      by_cases h : other = name
      · subst h; simp [Ne.symm hk]
      · simp [h]

/-- **Removal** leaves nothing under its name and everything else in place. -/
theorem get?_erase (t : Table α) (name other : Text) :
    (t.erase name).get? other = if other = name then none else t.get? other :=
  lookup_filter_ne name other t.toList

@[simp] theorem get?_empty (name : Text) : (empty : Table α).get? name = none := rfl

end Table

end DynamicSql
