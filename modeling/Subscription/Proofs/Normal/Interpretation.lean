import Subscription.Normal

/-! Normalization keeps the value of every expression wherever conjunction distributes over
disjunction on both sides, and only there. -/

namespace Subscription

universe u

/-- What the nodes of an expression are worth: the two connectives, what leaves and negations stand
for, and what a comparison makes of its operands. -/
structure Interpretation (D : Type u) where
  meet : D → D → D
  join : D → D → D
  value : Value → D
  negation : Expr → D
  comparison : CompareOp → D → D → D

/-- A meet that distributes over a join on both sides. -/
structure Distributive {D : Type u} (meet join : D → D → D) : Prop where
  /-- A join on the right of a meet is opened. -/
  overRight : ∀ a b c, meet a (join b c) = join (meet a b) (meet a c)
  /-- A join on the left of a meet is opened. -/
  overLeft : ∀ a b c, meet (join a b) c = join (meet a c) (meet b c)

namespace Interpretation

variable {D : Type u} {i : Interpretation D}

/-- The value of an expression, in which a negation is closed. -/
def eval (i : Interpretation D) : Expr → D
  | .and left right => i.meet (i.eval left) (i.eval right)
  | .or left right => i.join (i.eval left) (i.eval right)
  | .not inner => i.negation inner
  | .compare op left right => i.comparison op (i.eval left) (i.eval right)
  | .value leaf => i.value leaf

/-- Distributing over the right operand has the value of the conjunction. -/
theorem eval_distributeRight (laws : Distributive i.meet i.join) (left right : Expr) :
    i.eval (Expr.distributeRight left right) = i.meet (i.eval left) (i.eval right) := by
  -- Each disjunction of the right operand takes one use of the law on that side.
  induction right with
  | or a b iha ihb => rw [Expr.distributeRight, eval, iha, ihb, eval, laws.overRight]
  | and _ _ | not _ | compare _ _ _ | value _ => rfl

/-- Distributing has the value of the conjunction. -/
theorem eval_distribute (laws : Distributive i.meet i.join) (left right : Expr) :
    i.eval (Expr.distribute left right) = i.meet (i.eval left) (i.eval right) := by
  -- The left operand is opened first, and then the right one under each of its disjuncts.
  induction left with
  | or a b iha ihb => rw [Expr.distribute, eval, iha, ihb, eval, laws.overLeft]
  | and _ _ | not _ | compare _ _ _ | value _ => exact eval_distributeRight laws _ right

/-- The normal form has the value of the expression. -/
theorem eval_normalize (laws : Distributive i.meet i.join) (e : Expr) :
    i.eval e.normalize = i.eval e := by
  -- Operands of comparisons are normalized as well, and negations are left alone.
  induction e with
  | and left right ihl ihr => rw [Expr.normalize, eval_distribute laws, ihl, ihr, eval]
  | or left right ihl ihr => rw [Expr.normalize, eval, ihl, ihr, eval]
  | compare op left right ihl ihr => rw [Expr.normalize, eval, ihl, ihr, eval]
  | not _ | value _ => rfl

/-- An assignment in which three leaves stand for any three values. -/
def threeLeaves (a b c : D) : Value → D
  | .literal .null => a
  | .literal (.bool _) => b
  | _ => c

/--
Normalization keeps the value of every expression, whatever its leaves, negations and comparisons
are worth, exactly where meet distributes over join on both sides.
-/
theorem eval_normalize_iff (meet join : D → D → D) :
    Distributive meet join ↔
      ∀ (value : Value → D) (negation : Expr → D) (comparison : CompareOp → D → D → D) (e : Expr),
        (mk meet join value negation comparison).eval e.normalize =
          (mk meet join value negation comparison).eval e := by
  constructor
  · intro laws value negation comparison e
    exact eval_normalize laws e
  · intro kept
    -- A conjunction of one leaf with a choice of two others, either way round, shows each law.
    refine ⟨fun a b c => ?_, fun a b c => ?_⟩
    · exact (kept (threeLeaves a b c) (fun _ => a) (fun _ _ _ => a)
        (.and (.literal .null) (.or (.literal (.bool true)) (.literal (.int 0))))).symm
    · exact (kept (threeLeaves a b c) (fun _ => a) (fun _ _ _ => a)
        (.and (.or (.literal .null) (.literal (.bool true))) (.literal (.int 0)))).symm

/-- Truth values: a comparison with a conjunction as its operand, beside a choice with a negation,
is as true as its normal form. -/
theorem eval_normalize_iff_truth :
    Distributive (· && ·) (· || ·) ∧
    (mk (· && ·) (· || ·) (fun leaf => leaf == .literal .null) (fun _ => false)
        (fun _ a b => a && !b)).eval
      (Expr.and (.compare .equal (.literal .null) (.and (.literal .null)
          (.or (.literal (.bool true)) (.literal (.bool false)))))
        (.or (.not (.literal .null)) (.literal .null))).normalize = true := by
  -- Truth values distribute on both sides, so the value is that of the tree as it was written.
  have laws : Distributive (· && ·) (· || ·) := ⟨by decide, by decide⟩
  refine ⟨laws, ?_⟩
  rw [(eval_normalize_iff _ _).1 laws]
  rfl

end Interpretation

end Subscription
