import Mathlib.Data.List.Forall2
import Subscription.Proofs.Filter.NegationNormal

/-! The operands of comparisons, of which a negation turns truth values and nothing else. -/

namespace Subscription

/-- The operands of a comparison, and the number of negations that stand over it. -/
structure Operands where
  left : Expr
  right : Expr
  negations : Nat

/-- The operands of every comparison that connectives and negations lead to, from left to right; an
attribute that stands alone is compared with truth. -/
def Expr.operands (negations : Nat) : Expr → List Operands
  | .and left right | .or left right => left.operands negations ++ right.operands negations
  | .not inner => inner.operands (negations + 1)
  | .compare _ left right => [⟨left, right, negations⟩]
  | .value (.attributeRef id) => [⟨.attributeRef id, .literal (.bool true), negations⟩]
  | .value _ => []

namespace Operands

/-- What one negation does to the operands of a comparison: a truth value on the right may be
turned, and nothing else changes. -/
def TurnedTo (before after : Operands) : Prop :=
  after.left = before.left ∧ (after.right = before.right ∨
    ∃ b, before.right = .literal (.bool b) ∧ after.right = .literal (.bool !b))

/-- Operands are as they were written, but for a truth value that negations over them turned. -/
def KeptAs (written kept : Operands) : Prop :=
  kept.left = written.left ∧ (kept.right = written.right ∨ 0 < written.negations ∧
    ∃ b, written.right = .literal (.bool b) ∧ kept.right = .literal (.bool !b))

/-- Operands are kept as they are, however many negations stand over them. -/
theorem keptAs_self (left right : Expr) (negations negations' : Nat) :
    List.Forall₂ KeptAs [⟨left, right, negations⟩] [⟨left, right, negations'⟩] :=
  -- The numbers of negations are not looked at where nothing turned.
  .cons ⟨rfl, .inl rfl⟩ .nil

/-- One more negation over the operands may turn a truth value there, or turn it back. -/
theorem KeptAs.turned {written kept after : Operands} (held : written.KeptAs kept)
    (under : 0 < written.negations) (turned : kept.TurnedTo after) : written.KeptAs after := by
  obtain ⟨sameLeft, right⟩ := held
  obtain ⟨sameLeft', right'⟩ := turned
  refine ⟨sameLeft'.trans sameLeft, ?_⟩
  rcases right with same | ⟨-, b, truth, other⟩
  · -- So far the right operand is the one that was written.
    rw [same] at right'
    exact right'.imp_right fun turn => ⟨under, turn⟩
  · rcases right' with same' | ⟨b', truth', back⟩
    · exact .inr ⟨under, b, truth, same'.trans other⟩
    · -- The value that is turned now is the one that was turned before.
      rw [other] at truth'
      cases truth'
      rw [Bool.not_not] at back
      exact .inl (back.trans truth.symm)

/-- One more negation over a list of comparisons keeps the operands of each. -/
theorem keptAs_turned {written kept after : List Operands}
    (held : List.Forall₂ KeptAs written kept) (under : ∀ o ∈ written, 0 < o.negations)
    (turned : List.Forall₂ TurnedTo kept after) : List.Forall₂ KeptAs written after := by
  -- The three lists are walked together, one comparison at a time.
  induction held generalizing after with
  | nil =>
    cases turned
    exact .nil
  | cons first _ ih =>
    cases turned with
    | cons first' rest' =>
      obtain ⟨here, others⟩ := List.forall_mem_cons.1 under
      exact .cons (first.turned here first') (ih others rest')

end Operands

namespace Expr

/-- Every negation that stands over an expression stands over its comparisons. -/
theorem le_negations {e : Expr} {negations : Nat} :
    ∀ written ∈ e.operands negations, negations ≤ written.negations := by
  -- Below a negation the count goes up, and it never goes down.
  induction e generalizing negations with
  | and left right ihl ihr | or left right ihl ihr =>
    exact List.forall_mem_append.2 ⟨ihl, ihr⟩
  | not inner ih =>
    intro written member
    have deeper := ih written member
    omega
  | compare op left right _ _ =>
    intro written member
    cases List.mem_singleton.1 member
    exact Nat.le_refl _
  | value leaf =>
    intro written member
    cases leaf with
    | attributeRef id =>
      cases List.mem_singleton.1 member
      exact Nat.le_refl _
    | literal _ | schemaType _ | endpointName _ => cases member

/-- The right operand of an opposite comparison is the same, or the other truth value. -/
theorem Opposite.right_eq {op op' : CompareOp} {right right' : Expr}
    (opposite : Opposite op right op' right') :
    right' = right ∨ ∃ b, right = .literal (.bool b) ∧ right' = .literal (.bool !b) := by
  -- Only the first kind of opposites turns the value.
  cases opposite with
  | truth b => exact .inr ⟨b, rfl, rfl⟩
  | difference b => exact .inl rfl
  | complement _ _ _ => exact .inl rfl

/-- Pushing a negation down leaves every comparison in its place, with its operands. -/
theorem NegationNormal.operands_negate {e : Expr} (normal : NegationNormal e) (negations : Nat) :
    List.Forall₂ Operands.TurnedTo (e.operands negations) (e.negate.operands negations) := by
  -- Connectives are exchanged in place, so the order of comparisons stays.
  induction normal with
  | and _ _ ihl ihr | or _ _ ihl ihr => exact List.rel_append ihl ihr
  | compare op left right =>
    obtain ⟨op', right', same, opposite⟩ := negate_compare op left right
    rw [same]
    exact .cons ⟨rfl, opposite.right_eq⟩ .nil
  | @leaf leaf other | @negated leaf other =>
    -- No comparison stands in a negated leaf, and none appears without the negation.
    cases leaf with
    | attributeRef id => exact absurd rfl (other id)
    | literal _ | schemaType _ | endpointName _ => exact .nil

/-- Lifting leaves every comparison in its place, with its operands. -/
theorem operands_lift (e : Expr) (negations : Nat) :
    List.Forall₂ Operands.KeptAs (e.operands negations) (e.lift.operands 0) := by
  -- The count is general, because it grows on the way down to a comparison.
  induction e generalizing negations with
  | and _ _ ihl ihr | or _ _ ihl ihr => exact List.rel_append (ihl negations) (ihr negations)
  | not inner ih =>
    -- What is lifted stands under one negation more, which is pushed down afterwards.
    have under : ∀ written ∈ inner.operands (negations + 1), 0 < written.negations :=
      fun written member => Nat.lt_of_lt_of_le (Nat.succ_pos _) (le_negations written member)
    have turned := (negationNormal_lift inner).operands_negate 0
    exact Operands.keptAs_turned (ih (negations + 1)) under turned
  | compare op left right _ _ => exact Operands.keptAs_self left right negations 0
  | value leaf =>
    cases leaf with
    | attributeRef id => exact Operands.keptAs_self _ _ negations 0
    | literal _ | schemaType _ | endpointName _ => exact .nil

end Expr

end Subscription
