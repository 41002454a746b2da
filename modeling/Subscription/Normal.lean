import Subscription.Expr

/-! Disjunctive normal form, and the number of its groups without building it. -/

namespace Subscription.Expr

/-- A conjunction whose right operand may be a disjunction, left over right. -/
def distributeRight (left : Expr) : Expr → Expr
  | .or a b => .or (distributeRight left a) (distributeRight left b)
  | right => .and left right

/-- A conjunction of two trees, opened first along the left operand and then along the right. -/
def distribute : Expr → Expr → Expr
  | .or a b, right => .or (distribute a right) (distribute b right)
  | left, right => distributeRight left right

/-- The tree with no disjunction below a conjunction; negations and leaves stay as they are. -/
def normalize : Expr → Expr
  | .and left right => distribute left.normalize right.normalize
  | .or left right => .or left.normalize right.normalize
  | .compare op left right => .compare op left.normalize right.normalize
  | e => e

/-- The number of groups in the normal form, a comparison counting as its wider operand. -/
def exactWidth : Expr → Nat
  | .or left right => left.exactWidth + right.exactWidth
  | .and left right => left.exactWidth * right.exactWidth
  | .compare _ left right => max left.exactWidth right.exactWidth
  | _ => 1

/-- The largest count that fits sixty-four bits. -/
def largestCount : Nat :=
  0xffffffffffffffff

/-- The number of groups as a count of sixty-four bits, which stops at the largest. -/
def width : Expr → Nat
  | .or left right => min largestCount (left.width + right.width)
  | .and left right => min largestCount (left.width * right.width)
  | .compare _ left right => max left.width right.width
  | _ => 1

end Subscription.Expr
