/-! Tables of rows under conjunction: every pair of rows, put end to end. -/

namespace Subscription

variable {α β : Type}

/-- Each row of the first table in front of each row of the second, the second turning faster. -/
def joinRows (first second : List (List α)) : List (List α) :=
  first.flatMap fun row => second.map fun other => row ++ other

/-- An empty table has no row to pair. -/
@[simp] theorem joinRows_nil (second : List (List α)) : joinRows [] second = [] := rfl

/-- The first row meets every row of the second table before the next one does. -/
theorem joinRows_cons (row : List α) (first second : List (List α)) :
    joinRows (row :: first) second = second.map (row ++ ·) ++ joinRows first second := rfl

/-- The rows of a table put together from two are joined part by part. -/
theorem joinRows_append (first second third : List (List α)) :
    joinRows (first ++ second) third = joinRows first third ++ joinRows second third :=
  -- Every row is joined with the rows of the third table on its own.
  List.flatMap_append

/-- A row in front of every row of the first table ends up in front of every joined row. -/
theorem joinRows_map_append (row : List α) (first second : List (List α)) :
    joinRows (first.map (row ++ ·)) second = (joinRows first second).map (row ++ ·) := by
  induction first with
  | nil => rfl
  | cons other first ih =>
    rw [List.map_cons, joinRows_cons, ih, joinRows_cons, List.map_append, List.map_map]
    congr 1
    -- The two rows in front are put together before or after the last one.
    exact List.map_congr_left fun last _ => List.append_assoc row other last

/-- Three tables are joined from either end, with their rows in the same order. -/
theorem joinRows_assoc (first second third : List (List α)) :
    joinRows (joinRows first second) third = joinRows first (joinRows second third) := by
  -- The first table turns slowest on both sides.
  induction first with
  | nil => rfl
  | cons row first ih =>
    rw [joinRows_cons, joinRows_append, joinRows_map_append, ih, joinRows_cons]

/-- A joined row is a row of the first table and a row of the second. -/
theorem mem_joinRows {first second : List (List α)} {row : List α} :
    row ∈ joinRows first second ↔
      ∃ front ∈ first, ∃ back ∈ second, front ++ back = row := by
  -- The rows are those of all tables that a single front row makes.
  simp only [joinRows, List.mem_flatMap, List.mem_map]

/-- Entries are replaced before or after the rows are joined, to the same effect. -/
theorem map_joinRows (f : α → β) (first second : List (List α)) :
    (joinRows first second).map (·.map f) =
      joinRows (first.map (·.map f)) (second.map (·.map f)) := by
  induction first with
  | nil => rfl
  | cons row first ih =>
    rw [joinRows_cons, List.map_append, ih, List.map_cons, joinRows_cons, List.map_map,
      List.map_map]
    congr 1
    -- What is left is the rows that begin with the first one, each replaced in two parts.
    exact List.map_congr_left fun other _ => List.map_append

/-- Joining multiplies the numbers of rows. -/
@[simp] theorem length_joinRows (first second : List (List α)) :
    (joinRows first second).length = first.length * second.length := by
  induction first with
  | nil => rw [joinRows_nil, List.length_nil, Nat.zero_mul]
  | cons row first ih =>
    -- The first row brings one row for each of the second table.
    rw [joinRows_cons, List.length_append, List.length_map, ih, List.length_cons, Nat.succ_mul,
      Nat.add_comm]

/-- A row put in front of every row of a table is counted once for each of them. -/
theorem length_flatten_map_append (row : List α) (second : List (List α)) :
    (second.map (row ++ ·)).flatten.length =
      row.length * second.length + second.flatten.length := by
  induction second with
  | nil => rfl
  | cons other second ih =>
    rw [List.map_cons, List.flatten_cons, List.length_append, ih, List.length_append,
      List.flatten_cons, List.length_append, List.length_cons, Nat.mul_succ]
    -- Both sides count the same entries, grouped differently.
    omega

/-- Joining repeats the entries of each table once for every row of the other. -/
theorem length_flatten_joinRows (first second : List (List α)) :
    (joinRows first second).flatten.length =
      first.flatten.length * second.length + first.length * second.flatten.length := by
  induction first with
  | nil => simp only [joinRows_nil, List.flatten_nil, List.length_nil, Nat.zero_mul]
  | cons row first ih =>
    -- The first row is repeated in front of the second table, which is repeated once more with it.
    rw [joinRows_cons, List.flatten_append, List.length_append, length_flatten_map_append, ih,
      List.flatten_cons, List.length_append, List.length_cons, Nat.add_mul, Nat.succ_mul]
    omega

end Subscription
