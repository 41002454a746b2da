import Subscription.Normal

/-! Disjunctive normal form, which normalization reaches from any tree and then leaves alone. -/

namespace Subscription.Expr

/-- No disjunction is among the nodes that connectives lead to, which comparisons and negations
end. -/
def OrFree : Expr → Prop
  | .or _ _ => False
  | .and left right => left.OrFree ∧ right.OrFree
  | .not _ | .compare _ _ _ | .value _ => True

/-- A tree with no disjunction below a conjunction unless a comparison or a negation stands between
them, and whose comparisons have operands of this form. What is inside a negation does not count. -/
inductive DisjunctiveNormal : Expr → Prop where
  | or {left right : Expr} (first : DisjunctiveNormal left) (second : DisjunctiveNormal right) :
      DisjunctiveNormal (.or left right)
  | and {left right : Expr} (first : DisjunctiveNormal left) (second : DisjunctiveNormal right)
      (leftFree : left.OrFree) (rightFree : right.OrFree) : DisjunctiveNormal (.and left right)
  | compare (op : CompareOp) {left right : Expr} (first : DisjunctiveNormal left)
      (second : DisjunctiveNormal right) : DisjunctiveNormal (.compare op left right)
  | not (inner : Expr) : DisjunctiveNormal (.not inner)
  | value (leaf : Value) : DisjunctiveNormal (.value leaf)

/-- Distributing over an operand that shows no disjunction only conjoins the two. -/
theorem OrFree.distributeRight_eq {right : Expr} (free : right.OrFree) (left : Expr) :
    distributeRight left right = .and left right := by
  -- Distribution takes apart a disjunction and nothing else.
  cases right with
  | or a b => exact absurd free id
  | and _ _ | not _ | compare _ _ _ | value _ => rfl

/-- Two operands that show no disjunction are only conjoined. -/
theorem OrFree.distribute_eq {left right : Expr} (leftFree : left.OrFree)
    (rightFree : right.OrFree) : distribute left right = .and left right := by
  -- Neither operand is taken apart.
  cases left with
  | or a b => exact absurd leftFree id
  | and _ _ | not _ | compare _ _ _ | value _ => exact rightFree.distributeRight_eq _

/-- Conjoining an operand without disjunctions with each disjunct of a normal form gives a normal
form. -/
theorem DisjunctiveNormal.distributeRight {left right : Expr} (first : DisjunctiveNormal left)
    (leftFree : left.OrFree) (second : DisjunctiveNormal right) :
    DisjunctiveNormal (Expr.distributeRight left right) := by
  -- The induction is on the form of the right operand, whose disjunctions move to the top.
  induction second with
  | or _ _ iha ihb => exact .or iha ihb
  | and a b aFree bFree => exact .and first (.and a b aFree bFree) leftFree ⟨aFree, bFree⟩
  | compare op a b => exact .and first (.compare op a b) leftFree trivial
  | not inner => exact .and first (.not inner) leftFree trivial
  | value leaf => exact .and first (.value leaf) leftFree trivial

/-- Distributing two normal forms gives a normal form. -/
theorem DisjunctiveNormal.distribute {left right : Expr} (first : DisjunctiveNormal left)
    (second : DisjunctiveNormal right) : DisjunctiveNormal (Expr.distribute left right) := by
  -- Once the disjunctions of the left operand are opened, what is conjoined shows none.
  induction first with
  | or _ _ iha ihb => exact .or iha ihb
  | and a b aFree bFree =>
    exact DisjunctiveNormal.distributeRight (.and a b aFree bFree) ⟨aFree, bFree⟩ second
  | compare op a b => exact DisjunctiveNormal.distributeRight (.compare op a b) trivial second
  | not inner => exact DisjunctiveNormal.distributeRight (.not inner) trivial second
  | value leaf => exact DisjunctiveNormal.distributeRight (.value leaf) trivial second

/-- Normalization gives a normal form, whatever it is given. -/
theorem disjunctiveNormal_normalize (e : Expr) : DisjunctiveNormal e.normalize := by
  -- Operands of comparisons are normalized in their own right, and negations are not entered.
  induction e with
  | and _ _ ihl ihr => exact ihl.distribute ihr
  | or _ _ ihl ihr => exact .or ihl ihr
  | compare op _ _ ihl ihr => exact .compare op ihl ihr
  | not inner _ => exact .not inner
  | value leaf => exact .value leaf

/-- Normalization leaves a normal form as it is, node for node. -/
theorem DisjunctiveNormal.normalize_eq {e : Expr} (normal : DisjunctiveNormal e) :
    e.normalize = e := by
  -- Only a conjunction could change, and its operands show nothing to distribute over.
  induction normal with
  | or _ _ ihl ihr => rw [normalize, ihl, ihr]
  | and _ _ leftFree rightFree ihl ihr =>
    rw [normalize, ihl, ihr, leftFree.distribute_eq rightFree]
  | compare op _ _ ihl ihr => rw [normalize, ihl, ihr]
  | not inner => rfl
  | value leaf => rfl

/-- Normalizing once more changes nothing. -/
@[simp] theorem normalize_normalize (e : Expr) : e.normalize.normalize = e.normalize :=
  -- What was normalized is in normal form.
  e.disjunctiveNormal_normalize.normalize_eq

/-- The fixed points of normalization are the normal forms. -/
theorem normalize_eq_self_iff {e : Expr} : e.normalize = e ↔ DisjunctiveNormal e := by
  -- A fixed point is what normalization made of it, and that is in normal form.
  constructor
  · intro fixed
    rw [← fixed]
    exact e.disjunctiveNormal_normalize
  · exact DisjunctiveNormal.normalize_eq

/-- Whether a tree is a normal form is found by normalizing it. -/
instance : DecidablePred DisjunctiveNormal :=
  fun _ => decidable_of_iff _ normalize_eq_self_iff

/--
Normalization reaches disjunctive normal form from every tree and is the identity on exactly the
trees that have it.

A second run therefore changes nothing, be there negations, bare leaves or compound operands.
-/
theorem normalization_reaches_exactly (e : Expr) :
    DisjunctiveNormal e.normalize ∧ (e.normalize = e ↔ DisjunctiveNormal e) ∧
      e.normalize.normalize = e.normalize :=
  -- All three come from the normal form being reached and being left alone.
  ⟨e.disjunctiveNormal_normalize, normalize_eq_self_iff, e.normalize_normalize⟩

/-- A disjunction below a conjunction counts in the operand of a comparison, not in a negation. -/
example (a b c : Value) :
    ¬ DisjunctiveNormal (.compare .equal (.value a) (.and (.or (.value b) (.value c)) (.value a))) ∧
      DisjunctiveNormal (.not (.and (.or (.value b) (.value c)) (.value a))) := by
  refine ⟨?_, .not _⟩
  rw [← normalize_eq_self_iff]
  nofun

end Subscription.Expr
