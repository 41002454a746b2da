/-! Ordered traversals that stop at the first failure: when they succeed, and which failure wins. -/

namespace Subscription

variable {α β ε : Type}

/-- A nonempty traversal succeeds with the head's value in front of the others. -/
theorem mapM_cons_eq_ok_iff {f : α → Except ε β} {x : α} {xs : List α} {ys : List β} :
    (x :: xs).mapM f = .ok ys ↔
      ∃ y rest, f x = .ok y ∧ xs.mapM f = .ok rest ∧ ys = y :: rest := by
  rw [List.mapM_cons]
  -- The head is read first, and only a value lets the rest be read.
  cases f x with
  | error failure => exact ⟨nofun, nofun⟩
  | ok y =>
    cases xs.mapM f with
    | error failure => exact ⟨nofun, nofun⟩
    | ok rest =>
      constructor
      · intro same
        cases same
        exact ⟨y, rest, rfl, rfl, rfl⟩
      · intro parts
        -- The parts are the values that were read, and nothing else.
        obtain ⟨_, _, first, others, rfl⟩ := parts
        cases first
        cases others
        rfl

/-- A nonempty traversal fails as its head does, or as the rest does behind a head that passes. -/
theorem mapM_cons_eq_error_iff {f : α → Except ε β} {x : α} {xs : List α} {failure : ε} :
    (x :: xs).mapM f = .error failure ↔
      f x = .error failure ∨ (∃ y, f x = .ok y) ∧ xs.mapM f = .error failure := by
  rw [List.mapM_cons]
  cases f x with
  | error first =>
    -- A failing head hides everything behind it.
    constructor
    · intro same
      cases same
      exact .inl rfl
    · intro either
      rcases either with same | ⟨⟨_, passed⟩, _⟩
      · cases same
        rfl
      · cases passed
  | ok y =>
    cases xs.mapM f with
    | error later =>
      constructor
      · intro same
        cases same
        exact .inr ⟨⟨y, rfl⟩, rfl⟩
      · intro either
        -- A head with a value leaves only the failure of the rest.
        rcases either with failed | ⟨_, same⟩
        · cases failed
        · cases same
          rfl
    | ok rest => exact ⟨nofun, nofun⟩

/-- Two readers that agree on every entry traverse to the same result. -/
theorem mapM_congr {f g : α → Except ε β} {xs : List α} (same : ∀ x ∈ xs, f x = g x) :
    xs.mapM f = xs.mapM g := by
  -- Both stop at the same entry with the same failure, or at none.
  induction xs with
  | nil => rfl
  | cons x xs ih =>
    obtain ⟨head, tail⟩ := List.forall_mem_cons.1 same
    rw [List.mapM_cons, List.mapM_cons, head, ih tail]

/-- A traversal succeeds exactly when every entry does, with the results in order. -/
theorem mapM_eq_ok_iff {f : α → Except ε β} {xs : List α} {ys : List β} :
    xs.mapM f = .ok ys ↔ xs.map f = ys.map .ok := by
  induction xs generalizing ys with
  | nil =>
    cases ys with
    | nil => exact ⟨fun _ => rfl, fun _ => rfl⟩
    | cons y ys => exact ⟨nofun, nofun⟩
  | cons x xs ih =>
    rw [mapM_cons_eq_ok_iff, List.map_cons]
    constructor
    · intro read
      obtain ⟨y, rest, head, tail, rfl⟩ := read
      rw [head, ih.1 tail, List.map_cons]
    · intro same
      -- Equal lists of results have as many entries, so there is a first result to take.
      cases ys with
      | nil => cases same
      | cons y ys =>
        obtain ⟨head, tail⟩ := List.cons.inj same
        exact ⟨y, ys, head, ih.2 tail, rfl⟩

/-- A traversal succeeds exactly when no entry fails. -/
theorem mapM_succeeds_iff {f : α → Except ε β} {xs : List α} :
    (∃ ys, xs.mapM f = .ok ys) ↔ ∀ x ∈ xs, ∃ y, f x = .ok y := by
  -- The first entry is read before the others, and both have to succeed.
  induction xs with
  | nil => exact ⟨nofun, fun _ => ⟨[], rfl⟩⟩
  | cons x xs ih =>
    rw [List.forall_mem_cons, ← ih]
    constructor
    · intro succeeds
      obtain ⟨ys, read⟩ := succeeds
      obtain ⟨y, rest, head, tail, _⟩ := mapM_cons_eq_ok_iff.1 read
      exact ⟨⟨y, head⟩, rest, tail⟩
    · intro parts
      obtain ⟨⟨y, head⟩, rest, tail⟩ := parts
      exact ⟨y :: rest, mapM_cons_eq_ok_iff.2 ⟨y, rest, head, tail, rfl⟩⟩

/-- A traversal fails as its first failing entry does. -/
theorem mapM_eq_error_iff {f : α → Except ε β} {xs : List α} {failure : ε} :
    xs.mapM f = .error failure ↔ ∃ before x after, xs = before ++ x :: after ∧
      (∀ earlier ∈ before, ∃ y, f earlier = .ok y) ∧ f x = .error failure := by
  -- The induction is on the entries: the head fails, or it passes and the rest is searched.
  induction xs with
  | nil =>
    refine ⟨nofun, fun found => ?_⟩
    obtain ⟨before, x, after, split, _⟩ := found
    cases before <;> cases split
  | cons head tail ih =>
    rw [mapM_cons_eq_error_iff, ih]
    constructor
    · intro either
      rcases either with failed | ⟨passed, before, x, after, rfl, earlier, failed⟩
      · exact ⟨[], head, tail, rfl, nofun, failed⟩
      · exact ⟨head :: before, x, after, rfl, List.forall_mem_cons.2 ⟨passed, earlier⟩, failed⟩
    · intro found
      obtain ⟨before, x, after, split, earlier, failed⟩ := found
      -- Either nothing stands before the failing entry, or the head does and passes.
      cases before with
      | nil =>
        cases split
        exact .inl failed
      | cons first before =>
        cases split
        obtain ⟨passed, others⟩ := List.forall_mem_cons.1 earlier
        exact .inr ⟨passed, before, x, after, rfl, others, failed⟩

/-- Rows are read exactly when every entry is, with the results in the same rows. -/
theorem mapM_rows_eq_ok_iff {f : α → Except ε β} {rows : List (List α)} {table : List (List β)} :
    (rows.mapM fun row => row.mapM f) = .ok table ↔
      rows.map (·.map f) = table.map (·.map .ok) := by
  rw [mapM_eq_ok_iff]
  -- What is left is that each row is read as its entries are, one row at a time.
  induction rows generalizing table with
  | nil =>
    cases table with
    | nil => exact ⟨fun _ => rfl, fun _ => rfl⟩
    | cons entries table => exact ⟨nofun, nofun⟩
  | cons row rows ih =>
    cases table with
    | nil => exact ⟨nofun, nofun⟩
    | cons entries table => simp only [List.map_cons, List.cons.injEq, ih, mapM_eq_ok_iff]

/-- Two readers that agree on every entry of every row read the same table. -/
theorem mapM_rows_congr {f g : α → Except ε β} {rows : List (List α)}
    (same : ∀ x ∈ rows.flatten, f x = g x) :
    (rows.mapM fun row => row.mapM f) = rows.mapM fun row => row.mapM g := by
  -- An entry of a row is an entry of the table.
  refine mapM_congr fun row inRows => mapM_congr fun x inRow => ?_
  exact same x (List.mem_flatten.2 ⟨row, inRows, inRow⟩)

/-- Reading row by row meets the entries in the order of the rows put end to end. -/
theorem mapM_flatten (f : α → Except ε β) (rows : List (List α)) :
    rows.flatten.mapM f = Except.map List.flatten (rows.mapM fun row => row.mapM f) := by
  induction rows with
  | nil => rfl
  | cons row rows ih =>
    rw [List.flatten_cons, List.mapM_append, ih, List.mapM_cons]
    -- Both sides read the first row before any other, and stop there if it fails.
    cases row.mapM f with
    | error failure => rfl
    | ok ys => cases rows.mapM fun row => row.mapM f <;> rfl

/-- Rows are read exactly when no entry of any row fails. -/
theorem mapM_rows_succeeds_iff {f : α → Except ε β} {rows : List (List α)} :
    (∃ table, (rows.mapM fun row => row.mapM f) = .ok table) ↔
      ∀ x ∈ rows.flatten, ∃ y, f x = .ok y := by
  -- Putting the results end to end cannot fail.
  rw [← mapM_succeeds_iff, mapM_flatten]
  cases rows.mapM fun row => row.mapM f with
  | error failure => exact ⟨nofun, nofun⟩
  | ok table => exact ⟨fun _ => ⟨table.flatten, rfl⟩, fun _ => ⟨table, rfl⟩⟩

/-- Rows fail as the first failing entry does, counted row by row. -/
theorem mapM_rows_eq_error_iff {f : α → Except ε β} {rows : List (List α)} {failure : ε} :
    (rows.mapM fun row => row.mapM f) = .error failure ↔
      ∃ before x after, rows.flatten = before ++ x :: after ∧
        (∀ earlier ∈ before, ∃ y, f earlier = .ok y) ∧ f x = .error failure := by
  -- The rows put end to end fail in the same way.
  rw [← mapM_eq_error_iff, mapM_flatten]
  cases rows.mapM fun row => row.mapM f with
  | error other =>
    constructor
    · intro same
      cases same
      rfl
    · intro same
      cases same
      rfl
  | ok table => exact ⟨nofun, nofun⟩

end Subscription
