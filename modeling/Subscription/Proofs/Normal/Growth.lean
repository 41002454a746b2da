import Mathlib.Tactic.Ring
import Subscription.Proofs.Normal.Width

/-! What expansion costs: nodes, levels and disjuncts of the normal form, bounded beforehand. -/

namespace Subscription.Expr

/-- The number of disjuncts that a tree shows. -/
def breadth (e : Expr) : Nat :=
  e.disjuncts.length

/-- The disjuncts of a disjunction are those of its operands. -/
theorem breadth_or (left right : Expr) :
    (Expr.or left right).breadth = left.breadth + right.breadth :=
  List.length_append

/-- A tree shows at least one disjunct. -/
theorem breadth_pos (e : Expr) : 0 < e.breadth := by
  -- Any node but a disjunction is its own only disjunct.
  induction e with
  | or left right ihl ihr =>
    rw [breadth_or]
    omega
  | and _ _ | not _ | compare _ _ _ | value _ => exact Nat.one_pos

/-- The normal form shows no more disjuncts than the exact width. -/
theorem breadth_normalize_le (e : Expr) : e.normalize.breadth ≤ e.exactWidth := by
  -- Each disjunct of the normal form shows one row of the expression.
  have shown := congrArg List.length (flatRows_normalize e)
  rw [flatRows, List.length_map, List.length_map] at shown
  rw [breadth, shown]
  exact length_rows_le e

/-- Distributing over the right operand repeats the left one, and one node, for each disjunct. -/
theorem size_distributeRight (left right : Expr) :
    (distributeRight left right).size = right.breadth * (left.size + 1) + right.size := by
  -- Every disjunct of the right operand gets a copy of the left one under a new conjunction.
  induction right with
  | or a b iha ihb =>
    rw [distributeRight, size, iha, ihb, breadth_or, size]
    ring
  | and _ _ | not _ | compare _ _ _ | value _ =>
    show 1 + left.size + _ = 1 * (left.size + 1) + _
    omega

/-- Distributing repeats each operand, and one node, for each disjunct of the other; only the root
brings no node along. -/
theorem size_distribute (left right : Expr) :
    (distribute left right).size + 1 =
      left.breadth * (right.size + 1) + right.breadth * (left.size + 1) := by
  induction left with
  | or a b iha ihb =>
    -- Both halves count a node that the root does not bring, and the root is one of them.
    have halves : (distribute (.or a b) right).size + 1 =
        ((distribute a right).size + 1) + ((distribute b right).size + 1) := by
      rw [distribute, size]
      ring
    rw [halves, iha, ihb, breadth_or, size]
    ring
  | and _ _ | not _ | compare _ _ _ | value _ =>
    show (distributeRight _ right).size + 1 = 1 * (right.size + 1) + _
    rw [size_distributeRight]
    ring

/-- Copies of two operands, each as many as the other has disjuncts, stay within the product of the
widths when each operand stays within its own. -/
private theorem copies_le {wl wr nl nr sl sr gl gr : Nat} (leftPos : 0 < wl) (rightPos : 0 < wr)
    (leftBroad : gl ≤ wl) (rightBroad : gr ≤ wr) (leftSize : sl ≤ wl * nl)
    (rightSize : sr ≤ wr * nr) :
    gl * (sr + 1) + gr * (sl + 1) ≤ wl * wr * (1 + nl + nr) + 1 := by
  -- The two roots counted once for each copy are what the sum of the widths adds.
  have spare := add_le_mul_add_one leftPos rightPos
  calc gl * (sr + 1) + gr * (sl + 1)
      ≤ wl * (wr * nr + 1) + wr * (wl * nl + 1) :=
        Nat.add_le_add (Nat.mul_le_mul leftBroad (Nat.succ_le_succ rightSize))
          (Nat.mul_le_mul rightBroad (Nat.succ_le_succ leftSize))
    _ = wl * wr * (nl + nr) + (wl + wr) := by ring
    _ ≤ wl * wr * (nl + nr) + (wl * wr + 1) := Nat.add_le_add_left spare _
    _ = wl * wr * (1 + nl + nr) + 1 := by ring

/-- Two operands side by side stay within a width that covers both. -/
private theorem beside_le {w wl wr nl nr sl sr : Nat} (positive : 0 < w) (leftWidth : wl ≤ w)
    (rightWidth : wr ≤ w) (leftSize : sl ≤ wl * nl) (rightSize : sr ≤ wr * nr) :
    1 + sl + sr ≤ w * (1 + nl + nr) := by
  -- Either product is bounded by the one with the common width.
  have leftPart : sl ≤ w * nl := Nat.le_trans leftSize (Nat.mul_le_mul_right nl leftWidth)
  have rightPart : sr ≤ w * nr := Nat.le_trans rightSize (Nat.mul_le_mul_right nr rightWidth)
  rw [Nat.mul_add, Nat.mul_add, Nat.mul_one]
  omega

/-- The normal form has at most as many nodes as the expression, times its exact width. -/
theorem size_normalize_le (e : Expr) : e.normalize.size ≤ e.exactWidth * e.size := by
  -- Only a conjunction makes copies, one of each operand for every disjunct of the other.
  induction e with
  | and left right ihl ihr =>
    have grown := size_distribute left.normalize right.normalize
    have within := copies_le left.exactWidth_pos right.exactWidth_pos left.breadth_normalize_le
      right.breadth_normalize_le ihl ihr
    rw [normalize, exactWidth, size]
    omega
  | or left right ihl ihr =>
    exact beside_le (exactWidth_pos (.or left right)) (Nat.le_add_right _ _) (Nat.le_add_left _ _)
      ihl ihr
  | compare op left right ihl ihr =>
    exact beside_le (exactWidth_pos (.compare op left right)) (Nat.le_max_left _ _)
      (Nat.le_max_right _ _) ihl ihr
  | not _ _ | value _ => exact Nat.le_of_eq (Nat.one_mul _).symm

/-- Distributing over the right operand never makes a conjunction lower. -/
theorem le_height_distributeRight (left right : Expr) :
    1 + max left.height right.height ≤ (distributeRight left right).height := by
  -- Opening a disjunction moves its node above the conjunctions, and no path gets shorter.
  induction right with
  | or a b iha ihb =>
    rw [distributeRight, height, height]
    omega
  | and _ _ | not _ | compare _ _ _ | value _ => exact Nat.le_refl _

/-- Distributing never makes a conjunction lower. -/
theorem le_height_distribute (left right : Expr) :
    1 + max left.height right.height ≤ (distribute left right).height := by
  -- Once the left operand is opened, each disjunct of it is distributed over the right one.
  induction left with
  | or a b iha ihb =>
    rw [distribute, height, height]
    omega
  | and _ _ | not _ | compare _ _ _ | value _ => exact le_height_distributeRight _ right

/-- Distributing over the right operand puts the left one below its disjunctions at most. -/
theorem height_distributeRight_le (left right : Expr) :
    (distributeRight left right).height ≤ max (left.height + right.breadth) (right.height + 1) := by
  -- A chain of disjunctions is no longer than the number of its disjuncts less one.
  induction right with
  | or a b iha ihb =>
    have first := a.breadth_pos
    have second := b.breadth_pos
    rw [distributeRight, height, height, breadth_or]
    omega
  | and _ _ | not _ | compare _ _ _ | value _ =>
    show 1 + max left.height _ ≤ max (left.height + 1) _
    omega

/-- Distributing puts each operand below the disjunctions of the other at most. -/
theorem height_distribute_le (left right : Expr) :
    (distribute left right).height ≤
      max (left.height + right.breadth) (right.height + left.breadth) := by
  -- The disjunctions of the left operand end up above those of the right one.
  induction left with
  | or a b iha ihb =>
    have first := a.breadth_pos
    have second := b.breadth_pos
    rw [distribute, height, height, breadth_or]
    omega
  | and _ _ | not _ | compare _ _ _ | value _ => exact height_distributeRight_le _ right

/-- Normalizing never makes a tree lower. -/
theorem height_le_height_normalize (e : Expr) : e.height ≤ e.normalize.height := by
  -- Every node keeps its height when its operands do, a conjunction even after distributing.
  induction e with
  | and left right ihl ihr =>
    have kept := le_height_distribute left.normalize right.normalize
    rw [height, normalize]
    omega
  | or left right ihl ihr | compare _ left right ihl ihr =>
    rw [normalize, height, height]
    omega
  | not _ _ | value _ => exact Nat.le_refl _

/-- Normalizing adds fewer levels than the exact width. -/
theorem height_normalize_lt (e : Expr) : e.normalize.height < e.height + e.exactWidth := by
  -- Under a conjunction the disjunctions of both operands may end up on one path.
  induction e with
  | and left right ihl ihr =>
    have grown := height_distribute_le left.normalize right.normalize
    have leftBroad := left.breadth_normalize_le
    have rightBroad := right.breadth_normalize_le
    have spare := add_le_mul_add_one left.exactWidth_pos right.exactWidth_pos
    rw [normalize, height, exactWidth]
    omega
  | or left right ihl ihr =>
    rw [normalize, height, height, exactWidth]
    omega
  | compare op left right ihl ihr =>
    rw [normalize, height, height, exactWidth]
    omega
  | not _ _ | value _ => exact Nat.lt_succ_self _

/-- The trees below a node and outside negations whose parent is no disjunction. -/
def innerOrTrees : Expr → List Expr
  | .or left right => left.innerOrTrees ++ right.innerOrTrees
  | .and left right | .compare _ left right =>
    (left :: left.innerOrTrees) ++ (right :: right.innerOrTrees)
  | .not _ | .value _ => []

/-- The maximal disjunctions outside negations, where any other node counts as one disjunct. -/
def orTrees (e : Expr) : List Expr :=
  e :: e.innerOrTrees

/-- Distributing over the right operand opens no disjunction below the conjunctions it makes. -/
theorem mem_innerOrTrees_distributeRight {left right tree : Expr} (single : left.breadth = 1)
    (member : tree ∈ (distributeRight left right).innerOrTrees) :
    tree ∈ left.innerOrTrees ∨ tree ∈ right.innerOrTrees ∨ tree.breadth = 1 := by
  -- Below the disjunctions of the right operand stand conjunctions with its single disjuncts.
  induction right with
  | or a b iha ihb =>
    rw [distributeRight, innerOrTrees, List.mem_append] at member
    rw [innerOrTrees, List.mem_append]
    rcases member with inFirst | inSecond
    · rcases iha inFirst with inLeft | inRight | alone
      · exact .inl inLeft
      · exact .inr (.inl (.inl inRight))
      · exact .inr (.inr alone)
    · rcases ihb inSecond with inLeft | inRight | alone
      · exact .inl inLeft
      · exact .inr (.inl (.inr inRight))
      · exact .inr (.inr alone)
  | and _ _ | not _ | compare _ _ _ | value _ =>
    -- The new conjunction has the left operand and one disjunct of the right one below it.
    rcases List.mem_append.1 member with inLeft | inRight
    · rcases List.mem_cons.1 inLeft with rfl | below
      · exact .inr (.inr single)
      · exact .inl below
    · rcases List.mem_cons.1 inRight with rfl | below
      · exact .inr (.inr rfl)
      · exact .inr (.inl below)

/-- Distributing opens no disjunction below the conjunctions it makes. -/
theorem mem_innerOrTrees_distribute {left right tree : Expr}
    (member : tree ∈ (distribute left right).innerOrTrees) :
    tree ∈ left.innerOrTrees ∨ tree ∈ right.innerOrTrees ∨ tree.breadth = 1 := by
  -- The left operand is opened first, so what is distributed to the right shows one disjunct.
  induction left with
  | or a b iha ihb =>
    rw [distribute, innerOrTrees, List.mem_append] at member
    rw [innerOrTrees, List.mem_append]
    rcases member with inFirst | inSecond
    · rcases iha inFirst with inLeft | other
      · exact .inl (.inl inLeft)
      · exact .inr other
    · rcases ihb inSecond with inLeft | other
      · exact .inl (.inr inLeft)
      · exact .inr other
  | and _ _ | not _ | compare _ _ _ | value _ => exact mem_innerOrTrees_distributeRight rfl member

/-- No maximal disjunction of the normal form has more disjuncts than the exact width. -/
theorem breadth_le_of_mem_orTrees {e tree : Expr} (member : tree ∈ e.normalize.orTrees) :
    tree.breadth ≤ e.exactWidth := by
  -- The root is bounded by its rows; below it each tree comes from a narrower subexpression.
  induction e with
  | and left right ihl ihr =>
    have leftPos := left.exactWidth_pos
    have rightPos := right.exactWidth_pos
    have leftWithin : left.exactWidth ≤ left.exactWidth * right.exactWidth :=
      Nat.le_mul_of_pos_right _ rightPos
    have rightWithin : right.exactWidth ≤ left.exactWidth * right.exactWidth :=
      Nat.le_mul_of_pos_left _ leftPos
    rcases List.mem_cons.1 member with rfl | below
    · exact breadth_normalize_le (.and left right)
    · rw [exactWidth]
      rcases mem_innerOrTrees_distribute below with inLeft | inRight | alone
      · exact Nat.le_trans (ihl (List.mem_cons_of_mem _ inLeft)) leftWithin
      · exact Nat.le_trans (ihr (List.mem_cons_of_mem _ inRight)) rightWithin
      · omega
  | or left right ihl ihr =>
    rcases List.mem_cons.1 member with rfl | below
    · exact breadth_normalize_le (.or left right)
    · rcases List.mem_append.1 below with inLeft | inRight
      · exact Nat.le_trans (ihl (List.mem_cons_of_mem _ inLeft)) (Nat.le_add_right _ _)
      · exact Nat.le_trans (ihr (List.mem_cons_of_mem _ inRight)) (Nat.le_add_left _ _)
  | compare op left right ihl ihr =>
    rcases List.mem_cons.1 member with rfl | below
    · exact breadth_normalize_le (.compare op left right)
    · -- An operand of a comparison has a maximal disjunction of its own at its root.
      rcases List.mem_append.1 below with inLeft | inRight
      · exact Nat.le_trans (ihl inLeft) (Nat.le_max_left _ _)
      · exact Nat.le_trans (ihr inRight) (Nat.le_max_right _ _)
  | not inner _ =>
    cases List.mem_singleton.1 member
    exact Nat.le_refl _
  | value leaf =>
    cases List.mem_singleton.1 member
    exact Nat.le_refl _

end Subscription.Expr
