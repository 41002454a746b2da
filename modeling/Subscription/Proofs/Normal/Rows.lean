import Subscription.Normal
import Subscription.Proofs.Rows

/-! The rows of leaves that an expression stands for, and that its normal form lists in order. -/

namespace Subscription.Expr

/-- The operands of a disjunction, nested ones flattened from left to right. -/
def disjuncts : Expr → List Expr
  | .or left right => left.disjuncts ++ right.disjuncts
  | e => [e]

/-- The operands of a conjunction, nested ones flattened from left to right. -/
def conjuncts : Expr → List Expr
  | .and left right => left.conjuncts ++ right.conjuncts
  | e => [e]

/-- The rows that flattening reads off a tree, disjunctions first and then conjunctions. -/
def flatRows (e : Expr) : List (List Expr) :=
  e.disjuncts.map conjuncts

/-- The nodes below connectives, from left to right. -/
def leaves : Expr → List Expr
  | .and left right | .or left right => left.leaves ++ right.leaves
  | e => [e]

/-- The rows of leaves that an expression stands for: a disjunction lists the rows of both sides, a
conjunction pairs each row of its left side with each row of its right side. -/
def rows : Expr → List (List Expr)
  | .or left right => left.rows ++ right.rows
  | .and left right => joinRows left.rows right.rows
  | e => [[e]]

/-- Distributing gives a connective, never a leaf. -/
theorem kind_distribute (left right : Expr) :
    (distribute left right).kind = .and ∨ (distribute left right).kind = .or := by
  -- Opening an operand gives a disjunction; with nothing to open the conjunction stays.
  cases left with
  | or a b => exact .inr rfl
  | and _ _ | not _ | compare _ _ _ | value _ =>
    cases right with
    | or a b => exact .inr rfl
    | and _ _ | not _ | compare _ _ _ | value _ => exact .inl rfl

/-- The normal form of a conjunction is a node of no other kind than a connective. -/
theorem kind_normalize_and_ne {kind : NodeKind} (noAnd : kind ≠ .and) (noOr : kind ≠ .or)
    (left right : Expr) : (Expr.and left right).normalize.kind ≠ kind := by
  -- What distributing gives has one of the two kinds that are excluded.
  intro same
  rw [normalize] at same
  rcases kind_distribute left.normalize right.normalize with conjunction | disjunction
  · exact noAnd (same.symm.trans conjunction)
  · exact noOr (same.symm.trans disjunction)

/-- Only a leaf operand has a leaf operand as its normal form. -/
theorem normalize_eq_value_iff {e : Expr} {leaf : Value} :
    e.normalize = .value leaf ↔ e = .value leaf := by
  cases e with
  | and left right =>
    -- A conjunction is distributed, and what that gives is no leaf.
    have noLeaf : (Expr.and left right).normalize.kind ≠ .value :=
      kind_normalize_and_ne (by decide) (by decide) left right
    exact ⟨fun same => absurd (congrArg kind same) noLeaf, nofun⟩
  | or _ _ | compare _ _ _ => exact ⟨nofun, nofun⟩
  | not _ | value _ => exact Iff.rfl

/-- Only a comparison has a comparison as its normal form, with the operands in normal form. -/
theorem normalize_eq_compare {e left right : Expr} {op : CompareOp}
    (normal : e.normalize = .compare op left right) :
    ∃ l r, e = .compare op l r ∧ l.normalize = left ∧ r.normalize = right := by
  -- A conjunction becomes a connective, and every other node keeps its kind.
  cases e with
  | and l r =>
    have noComparison : (Expr.and l r).normalize.kind ≠ .compare :=
      kind_normalize_and_ne (by decide) (by decide) l r
    exact absurd (congrArg kind normal) noComparison
  | compare op' l r =>
    cases normal
    exact ⟨l, r, rfl, rfl, rfl⟩
  | or _ _ | not _ | value _ => cases normal

/-- Distributing over the right operand conjoins the left one with each of its disjuncts. -/
theorem disjuncts_distributeRight (left right : Expr) :
    (distributeRight left right).disjuncts = right.disjuncts.map (.and left) := by
  -- The recursion follows the right operand's disjunctions, and stops with one conjunction.
  induction right with
  | or a b iha ihb => rw [distributeRight, disjuncts, iha, ihb, disjuncts, List.map_append]
  | and _ _ | not _ | compare _ _ _ | value _ => rfl

/-- Distributing pairs the disjuncts of both operands, those of the right one turning faster. -/
theorem disjuncts_distribute (left right : Expr) :
    (distribute left right).disjuncts =
      left.disjuncts.flatMap fun a => right.disjuncts.map (.and a) := by
  -- The left operand is opened first, so its disjuncts are the outer ones.
  induction left with
  | or a b iha ihb => rw [distribute, disjuncts, iha, ihb, disjuncts, List.flatMap_append]
  | and _ _ | not _ | compare _ _ _ | value _ =>
    exact (disjuncts_distributeRight _ right).trans (List.append_nil _).symm

/-- Distributing joins the rows that both operands show. -/
theorem flatRows_distribute (left right : Expr) :
    (distribute left right).flatRows = joinRows left.flatRows right.flatRows := by
  unfold flatRows joinRows
  rw [disjuncts_distribute, List.map_flatMap, List.flatMap_map]
  -- A conjunction of two disjuncts shows the conjuncts of the first and then of the second.
  congr 1
  funext a
  rw [List.map_map, List.map_map]
  rfl

/-- The normal form shows the rows of the expression, each leaf in its own normal form. -/
theorem flatRows_normalize (e : Expr) :
    e.normalize.flatRows = e.rows.map (·.map normalize) := by
  -- Rows are replaced leaf by leaf, which commutes with joining and with appending them.
  induction e with
  | and left right ihl ihr => rw [normalize, flatRows_distribute, ihl, ihr, rows, map_joinRows]
  | or left right ihl ihr =>
    rw [rows, List.map_append, ← ihl, ← ihr]
    exact List.map_append
  | not _ _ | compare _ _ _ _ _ | value _ => rfl

/-- An expression stands for at least one row. -/
theorem length_rows_pos (e : Expr) : 0 < e.rows.length := by
  -- Neither a product nor a sum of positive numbers of rows is zero.
  induction e with
  | and left right ihl ihr =>
    rw [rows, length_joinRows]
    exact Nat.mul_pos ihl ihr
  | or left right ihl ihr =>
    rw [rows, List.length_append]
    omega
  | not _ _ | compare _ _ _ _ _ | value _ => exact Nat.one_pos

/-- Every leaf stands in some row, and the rows hold leaves only. -/
theorem mem_flatten_rows {e leaf : Expr} : leaf ∈ e.rows.flatten ↔ leaf ∈ e.leaves := by
  induction e with
  | and left right ihl ihr =>
    rw [leaves, List.mem_append, ← ihl, ← ihr]
    simp only [rows, List.mem_flatten, mem_joinRows]
    constructor
    · intro found
      obtain ⟨_, ⟨front, inFirst, back, inSecond, rfl⟩, member⟩ := found
      rcases List.mem_append.1 member with member | member
      · exact .inl ⟨front, inFirst, member⟩
      · exact .inr ⟨back, inSecond, member⟩
    · intro either
      -- A row of either side is continued by some row of the other, which has one.
      rcases either with ⟨front, inFirst, member⟩ | ⟨back, inSecond, member⟩
      · obtain ⟨back, inSecond⟩ := List.exists_mem_of_length_pos right.length_rows_pos
        exact ⟨_, ⟨front, inFirst, back, inSecond, rfl⟩, List.mem_append_left back member⟩
      · obtain ⟨front, inFirst⟩ := List.exists_mem_of_length_pos left.length_rows_pos
        exact ⟨_, ⟨front, inFirst, back, inSecond, rfl⟩, List.mem_append_right front member⟩
  | or left right ihl ihr =>
    rw [rows, List.flatten_append, List.mem_append, ihl, ihr, leaves, List.mem_append]
  | not _ _ | compare _ _ _ _ _ | value _ => rfl

end Subscription.Expr
