/-! Tables from names to entries, kept in ascending order of name. -/

namespace Subscription

/-- Entries by name, of which each name has at most one. -/
structure Table (α : Type) where
  entries : List (String × α)
deriving DecidableEq

namespace Table

variable {α : Type}

/-- The table without entries. -/
def empty : Table α :=
  ⟨[]⟩

/-- The entry of a name. -/
def get? (t : Table α) (name : String) : Option α :=
  t.entries.lookup name

/-- Entries with one put in its place, over an earlier entry of its name. -/
def insertEntry (name : String) (entry : α) : List (String × α) → List (String × α)
  | [] => [(name, entry)]
  | (first, old) :: rest =>
    if name = first then (name, entry) :: rest
    else if name < first then (name, entry) :: (first, old) :: rest
    else (first, old) :: insertEntry name entry rest

/-- The table after a write, which replaces what its name held. -/
def insert (t : Table α) (name : String) (entry : α) : Table α :=
  ⟨insertEntry name entry t.entries⟩

/-- A table from writes in order. -/
def ofWrites (writes : List (String × α)) : Table α :=
  writes.foldl (fun t (name, entry) => t.insert name entry) empty

/-- A written entry is found under its name. -/
theorem get?_insert_self (t : Table α) (name : String) (entry : α) :
    (t.insert name entry).get? name = some entry := by
  obtain ⟨entries⟩ := t
  simp only [insert, get?]
  -- The write lands at or before the first entry of its name.
  induction entries with
  | nil => simp only [insertEntry, List.lookup_cons, beq_self_eq_true]
  | cons head rest ih =>
    obtain ⟨first, old⟩ := head
    simp only [insertEntry]
    split
    · simp only [List.lookup_cons, beq_self_eq_true]
    · next different =>
      split
      · simp only [List.lookup_cons, beq_self_eq_true]
      · -- Every entry before the new one has another name.
        have passed : (name == first) = false := beq_eq_false_iff_ne.2 different
        simp only [List.lookup_cons, passed]
        exact ih

/-- A write leaves every other name as it was. -/
theorem get?_insert_of_ne (t : Table α) {name other : String} (entry : α)
    (different : other ≠ name) : (t.insert name entry).get? other = t.get? other := by
  obtain ⟨entries⟩ := t
  simp only [insert, get?]
  -- The new entry is passed over wherever it stands.
  have passed : (other == name) = false := beq_eq_false_iff_ne.2 different
  induction entries with
  | nil => simp only [insertEntry, List.lookup_cons, passed]
  | cons head rest ih =>
    obtain ⟨first, old⟩ := head
    simp only [insertEntry]
    split
    · next same =>
      subst same
      simp only [List.lookup_cons, passed]
    · split
      · simp only [List.lookup_cons, passed]
      · simp only [List.lookup_cons]
        split
        · rfl
        · exact ih

end Table

end Subscription
