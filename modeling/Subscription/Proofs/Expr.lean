import Subscription.Expr

/-! A tree equals itself unless it holds a float that is not a number. -/

namespace Subscription.Expr

/-- The leaves of a tree, operands of comparisons among them, from left to right. -/
def values : Expr → List Value
  | .and left right | .or left right | .compare _ left right => left.values ++ right.values
  | .not inner => inner.values
  | .value leaf => [leaf]

/-- A leaf equals itself unless it is the float that is not a number. -/
theorem same_self_value (leaf : Value) : leaf.same leaf = true ↔ leaf ≠ .literal (.float .nan) := by
  -- Constants of every other kind, and operands of every other source, compare as such.
  cases leaf with
  | attributeRef _ | schemaType _ | endpointName _ => simp [Value.same]
  | literal constant =>
    cases constant with
    | float x => cases x <;> simp [Value.same, Literal.same, Binary64.same]
    | null | bool _ | int _ | uint _ | text _ | enum _ _ => simp [Value.same, Literal.same]

/-- A tree equals itself unless one of its leaves is the float that is not a number. -/
theorem same_self_iff (e : Expr) : e.same e = true ↔ .literal (.float .nan) ∉ e.values := by
  -- Equality goes into the operands, so all that can differ from itself is a leaf.
  induction e with
  | and left right ihl ihr | or left right ihl ihr =>
    rw [same, Bool.and_eq_true, ihl, ihr, values, List.mem_append, not_or]
  | compare op left right ihl ihr =>
    rw [same, Bool.and_eq_true, Bool.and_eq_true, ihl, ihr, values, List.mem_append, not_or]
    simp only [beq_self_eq_true, true_and]
  | not inner ih => rw [same, ih, values]
  | value leaf => rw [same, same_self_value, values, List.mem_singleton, ne_comm]

end Subscription.Expr
