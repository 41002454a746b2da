import Subscription.Proofs.Normal.Rows

/-! The counted width is the exact one cut off at the largest count, and bounds the rows. -/

namespace Subscription.Expr

/-- Two positive factors are no smaller together than their sum less one. -/
theorem add_le_mul_add_one {a b : Nat} (first : 0 < a) (second : 0 < b) : a + b ≤ a * b + 1 := by
  -- With both factors written as successors, the product exceeds the sum by the product below.
  obtain ⟨c, rfl⟩ := Nat.exists_eq_add_of_lt first
  obtain ⟨d, rfl⟩ := Nat.exists_eq_add_of_lt second
  have expanded : (0 + c + 1) * (0 + d + 1) = c * d + c + d + 1 := by
    rw [Nat.zero_add, Nat.zero_add, Nat.add_mul, Nat.mul_add, Nat.mul_one, Nat.one_mul]
    omega
  omega

/-- Cutting off summands does not change a sum that is cut off itself. -/
theorem min_add_min (limit a b : Nat) :
    min limit (min limit a + min limit b) = min limit (a + b) := by
  -- A summand that was cut off already puts the sum past the limit.
  omega

/-- Cutting off one factor does not change a product that is cut off itself. -/
theorem min_mul_min_right {limit a : Nat} (b : Nat) (positive : 0 < a) :
    min limit (a * min limit b) = min limit (a * b) := by
  rcases Nat.le_total b limit with small | large
  · rw [Nat.min_eq_right small]
  · -- A factor that reaches the limit keeps the product there, because the other is not zero.
    have reached : limit ≤ a * limit := Nat.le_mul_of_pos_left limit positive
    have beyond : a * limit ≤ a * b := Nat.mul_le_mul_left a large
    rw [Nat.min_eq_left large]
    omega

/-- Cutting off positive factors does not change a product that is cut off itself. -/
theorem min_mul_min {limit a b : Nat} (first : 0 < a) (second : 0 < b) :
    min limit (min limit a * min limit b) = min limit (a * b) := by
  rcases Nat.eq_zero_or_pos limit with zero | positive
  · rw [zero, Nat.zero_min, Nat.zero_min]
  · -- What is left of a positive factor is positive.
    have kept : 0 < min limit a := Nat.lt_min.2 ⟨positive, first⟩
    rw [min_mul_min_right b kept, Nat.mul_comm, min_mul_min_right a second, Nat.mul_comm]

/-- Every expression has at least one group. -/
theorem exactWidth_pos (e : Expr) : 0 < e.exactWidth := by
  -- Sums, products and maxima of positive numbers are positive.
  induction e with
  | and left right ihl ihr => exact Nat.mul_pos ihl ihr
  | or left right ihl ihr => exact Nat.add_pos_left ihl _
  | compare op left right ihl ihr => exact Nat.lt_of_lt_of_le ihl (Nat.le_max_left _ _)
  | not _ _ | value _ => exact Nat.one_pos

/-- The counted width is the exact width, cut off at the largest count. -/
theorem width_eq_min (e : Expr) : e.width = min largestCount e.exactWidth := by
  -- A subtree at the largest count stays there under every node above it.
  induction e with
  | and left right ihl ihr =>
    rw [width, ihl, ihr, exactWidth, min_mul_min left.exactWidth_pos right.exactWidth_pos]
  | or left right ihl ihr => rw [width, ihl, ihr, exactWidth, min_add_min]
  | compare op left right ihl ihr =>
    rw [width, ihl, ihr, exactWidth]
    omega
  | not _ _ | value _ => rfl

/-- A width that passes a limit below the largest count was not cut off. -/
theorem exactWidth_le_of_width_le {e : Expr} {limit : Nat} (below : limit < largestCount)
    (narrow : e.width ≤ limit) : e.exactWidth ≤ limit := by
  -- Of the two terms of the minimum, the largest count exceeds the limit.
  rw [width_eq_min] at narrow
  omega

/-- An expression has no more rows than its exact width. -/
theorem length_rows_le (e : Expr) : e.rows.length ≤ e.exactWidth := by
  -- A leaf has one row and may be wider, so the bound is not exact.
  induction e with
  | and left right ihl ihr =>
    rw [rows, length_joinRows]
    exact Nat.mul_le_mul ihl ihr
  | or left right ihl ihr =>
    rw [rows, List.length_append]
    exact Nat.add_le_add ihl ihr
  | not _ _ | compare _ _ _ _ _ | value _ => exact exactWidth_pos _

/-- Where every leaf is of width one, the exact width is the number of rows. -/
theorem length_rows_eq {e : Expr} (narrow : ∀ leaf ∈ e.leaves, leaf.exactWidth = 1) :
    e.rows.length = e.exactWidth := by
  -- Joining multiplies and appending adds, as the width does.
  induction e with
  | and left right ihl ihr =>
    obtain ⟨first, second⟩ := List.forall_mem_append.1 narrow
    rw [rows, length_joinRows, ihl first, ihr second, exactWidth]
  | or left right ihl ihr =>
    obtain ⟨first, second⟩ := List.forall_mem_append.1 narrow
    rw [rows, List.length_append, ihl first, ihr second, exactWidth]
  | not _ _ | compare _ _ _ _ _ | value _ => exact (narrow _ (List.mem_singleton.2 rfl)).symm

/-- The number of leaves in all rows, counted without building them. -/
def rowTotal : Expr → Nat
  | .or left right => left.rowTotal + right.rowTotal
  | .and left right => left.rowTotal * right.exactWidth + left.exactWidth * right.rowTotal
  | _ => 1

/-- Where every leaf is of width one, that count is exact. -/
theorem length_flatten_rows {e : Expr} (narrow : ∀ leaf ∈ e.leaves, leaf.exactWidth = 1) :
    e.rows.flatten.length = e.rowTotal := by
  -- Under a conjunction the entries of each side are repeated for every row of the other.
  induction e with
  | and left right ihl ihr =>
    obtain ⟨first, second⟩ := List.forall_mem_append.1 narrow
    rw [rows, length_flatten_joinRows, ihl first, ihr second, length_rows_eq first,
      length_rows_eq second, rowTotal]
  | or left right ihl ihr =>
    obtain ⟨first, second⟩ := List.forall_mem_append.1 narrow
    rw [rows, List.flatten_append, List.length_append, ihl first, ihr second, rowTotal]
  | not _ _ | compare _ _ _ _ _ | value _ => rfl

end Subscription.Expr
