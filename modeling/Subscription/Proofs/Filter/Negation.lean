import Subscription.Filter

/-! What pushing a negation down does to a comparison, and which attributes it leaves in place. -/

namespace Subscription

/-- Complements keep the two operators that null may be compared with. -/
theorem CompareOp.complement_equality_iff {op : CompareOp} :
    op.complement = .equal ∨ op.complement = .notEqual ↔ op = .equal ∨ op = .notEqual := by
  -- The two are complements of one another.
  cases op <;> decide

namespace Expr

/-- How a negation rewrites the operator and the right operand of a comparison: against a truth
value it turns the value and ends with equality, and otherwise it takes the complement. -/
inductive Opposite : CompareOp → Expr → CompareOp → Expr → Prop where
  | truth (b : Bool) : Opposite .equal (.literal (.bool b)) .equal (.literal (.bool !b))
  | difference (b : Bool) : Opposite .notEqual (.literal (.bool b)) .equal (.literal (.bool b))
  | complement (op : CompareOp) (right : Expr)
      (other : ∀ b, right = .literal (.bool b) → op ≠ .equal ∧ op ≠ .notEqual) :
      Opposite op right op.complement right

/-- Where no truth value stands on the right, negating a comparison takes its complement. -/
theorem negate_compare_other {op : CompareOp} {left right : Expr}
    (other : ∀ b, right ≠ .literal (.bool b)) :
    (Expr.compare op left right).negate = .compare op.complement left right := by
  -- The other equations of the definition ask for a truth value on the right.
  rw [negate]
  · intro b _
    exact other b
  · intro b _
    exact other b

/-- Negating a comparison keeps the left operand and takes the opposite of the rest. -/
theorem negate_compare (op : CompareOp) (left right : Expr) :
    ∃ op' right', (Expr.compare op left right).negate = .compare op' left right' ∧
      Opposite op right op' right' := by
  by_cases truth : ∃ b, right = .literal (.bool b)
  · -- Against a truth value, only equality and inequality are treated apart.
    obtain ⟨b, rfl⟩ := truth
    cases op with
    | equal => exact ⟨_, _, rfl, .truth b⟩
    | notEqual => exact ⟨_, _, rfl, .difference b⟩
    | greaterThan | greaterOrEqual | lessThan | lessOrEqual =>
      exact ⟨_, _, rfl, .complement _ _ fun _ _ => ⟨nofun, nofun⟩⟩
  · have other : ∀ b, right ≠ .literal (.bool b) := fun b same => truth ⟨b, same⟩
    exact ⟨_, _, negate_compare_other other,
      .complement op right fun b same => absurd same (other b)⟩

/-- Negating a comparison twice gives it back, unless it is inequality to a truth value, which
becomes equality with the other one. -/
theorem negate_negate_compare (op : CompareOp) (left right : Expr) :
    (Expr.compare op left right).negate.negate = .compare op left right ∨
      ∃ b, op = .notEqual ∧ right = .literal (.bool b) ∧
        (Expr.compare op left right).negate.negate =
          .compare .equal left (.literal (.bool !b)) := by
  by_cases truth : ∃ b, right = .literal (.bool b)
  · obtain ⟨b, rfl⟩ := truth
    cases op with
    | equal =>
      -- The value is turned twice.
      have turned : (Expr.compare .equal left (.literal (.bool b))).negate.negate =
          .compare .equal left (.literal (.bool !!b)) := rfl
      rw [turned, Bool.not_not]
      exact .inl rfl
    | notEqual => exact .inr ⟨b, rfl, rfl, rfl⟩
    | greaterThan | greaterOrEqual | lessThan | lessOrEqual => exact .inl rfl
  · -- The complement of the complement is the operator itself.
    have other : ∀ b, right ≠ .literal (.bool b) := fun b same => truth ⟨b, same⟩
    rw [negate_compare_other other, negate_compare_other other, op.complement_complement]
    exact .inl rfl

/-- The attributes that an expression mentions, from left to right. -/
def attributes : Expr → List AttributeId
  | .and left right | .or left right | .compare _ left right => left.attributes ++ right.attributes
  | .not inner => inner.attributes
  | .value (.attributeRef id) => [id]
  | .value _ => []

/-- The attribute of a comparison that tests for a truth value, by equality or by inequality. -/
def testedFlag : CompareOp → Expr → Expr → List AttributeId
  | .equal, .value (.attributeRef id), .value (.literal (.bool _)) => [id]
  | .notEqual, .value (.attributeRef id), .value (.literal (.bool _)) => [id]
  | _, _, _ => []

/-- The attributes that an expression reads as truth values: those that stand alone, and those that
comparisons test for one. -/
def flags : Expr → List AttributeId
  | .and left right | .or left right => left.flags ++ right.flags
  | .not inner => inner.flags
  | .compare op left right => testedFlag op left right
  | .value (.attributeRef id) => [id]
  | .value _ => []

/-- Opposite comparisons test the same attribute for a truth value, if any. -/
theorem Opposite.testedFlag_eq {op op' : CompareOp} {right right' : Expr}
    (opposite : Opposite op right op' right') (left : Expr) :
    testedFlag op' left right' = testedFlag op left right := by
  cases opposite with
  | truth b | difference b =>
    cases left with
    | value leaf => cases leaf <;> rfl
    | _ => rfl
  | complement _ _ other =>
    -- Neither equality nor inequality meets a truth value here, on either side.
    have untested : ∀ op, (∀ b, right = .literal (.bool b) → op ≠ .equal ∧ op ≠ .notEqual) →
        testedFlag op left right = [] := by
      intro op excluded
      unfold testedFlag
      split
      · exact absurd rfl (excluded _ rfl).1
      · exact absurd rfl (excluded _ rfl).2
      · rfl
    rw [untested op other, untested op.complement]
    intro b same
    have neither := not_or.2 (other b same)
    exact not_or.1 fun equality => neither (CompareOp.complement_equality_iff.1 equality)

/-- A negation mentions what it negates. -/
theorem attributes_negate (e : Expr) : e.negate.attributes = e.attributes := by
  induction e with
  | and left right ihl ihr | or left right ihl ihr => simp only [negate, attributes, ihl, ihr]
  | not inner _ => rfl
  | compare op left right _ _ =>
    -- Neither side of a truth value is an attribute, and every other operand stays.
    obtain ⟨op', right', same, opposite⟩ := negate_compare op left right
    rw [same]
    cases opposite <;> rfl
  | value leaf => cases leaf <;> rfl

/-- A negation reads the same attributes as truth values as what it negates. -/
theorem flags_negate (e : Expr) : e.negate.flags = e.flags := by
  induction e with
  | and left right ihl ihr | or left right ihl ihr => simp only [negate, flags, ihl, ihr]
  | not inner _ => rfl
  | compare op left right _ _ =>
    -- A test for a truth value becomes a test of the same attribute for one.
    obtain ⟨op', right', same, opposite⟩ := negate_compare op left right
    rw [same]
    exact opposite.testedFlag_eq left
  | value leaf => cases leaf <;> rfl

/-- Lifting mentions what was written. -/
theorem attributes_lift (e : Expr) : e.lift.attributes = e.attributes := by
  -- A negation is lifted before it is pushed down, and neither loses an attribute.
  induction e with
  | and left right ihl ihr | or left right ihl ihr => simp only [lift, attributes, ihl, ihr]
  | not inner ih => rw [lift, attributes_negate, ih, attributes]
  | compare _ _ _ _ _ => rfl
  | value leaf => cases leaf <;> rfl

/-- Lifting reads the attributes as truth values that were written so. -/
theorem flags_lift (e : Expr) : e.lift.flags = e.flags := by
  -- A lifted attribute is compared with true, and so read as it was alone.
  induction e with
  | and left right ihl ihr | or left right ihl ihr => simp only [lift, flags, ihl, ihr]
  | not inner ih => rw [lift, flags_negate, ih, flags]
  | compare _ _ _ _ _ => rfl
  | value leaf => cases leaf <;> rfl

end Expr

end Subscription
