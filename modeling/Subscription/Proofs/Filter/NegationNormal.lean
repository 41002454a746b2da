import Subscription.Proofs.Filter.Negation

/-! Negation normal form, which lifting reaches from any tree and then leaves alone. -/

namespace Subscription.Expr

/-- The nodes in boolean position: the root, and what connectives and negations there lead to. -/
def positions : Expr → List Expr
  | .and left right => .and left right :: (left.positions ++ right.positions)
  | .or left right => .or left right :: (left.positions ++ right.positions)
  | .not inner => .not inner :: inner.positions
  | e => [e]

/-- A tree of connectives over comparisons and over leaves that are no attributes, which alone may
be negated. -/
inductive NegationNormal : Expr → Prop where
  | and {left right : Expr} (first : NegationNormal left) (second : NegationNormal right) :
      NegationNormal (.and left right)
  | or {left right : Expr} (first : NegationNormal left) (second : NegationNormal right) :
      NegationNormal (.or left right)
  | compare (op : CompareOp) (left right : Expr) : NegationNormal (.compare op left right)
  | leaf {leaf : Value} (other : ∀ id, leaf ≠ .attributeRef id) : NegationNormal (.value leaf)
  | negated {leaf : Value} (other : ∀ id, leaf ≠ .attributeRef id) :
      NegationNormal (.not (.value leaf))

/-- In negation normal form no node in boolean position negates anything but a leaf that is no
attribute, and none is an attribute. -/
theorem NegationNormal.positions {e : Expr} (normal : NegationNormal e) :
    ∀ node ∈ e.positions, (∀ inner, node = .not inner →
      ∃ leaf, inner = .value leaf ∧ ∀ id, leaf ≠ .attributeRef id) ∧
      ∀ id, node ≠ .attributeRef id := by
  induction normal with
  | and _ _ ihl ihr | or _ _ ihl ihr =>
    -- The connective itself is neither a negation nor a leaf.
    exact List.forall_mem_cons.2 ⟨⟨nofun, nofun⟩, List.forall_mem_append.2 ⟨ihl, ihr⟩⟩
  | compare op left right =>
    intro node member
    cases List.mem_singleton.1 member
    exact ⟨nofun, nofun⟩
  | leaf other =>
    intro node member
    cases List.mem_singleton.1 member
    refine ⟨nofun, fun id same => ?_⟩
    cases same
    exact other id rfl
  | @negated leaf other =>
    -- Below the negation stands the leaf, which is no attribute either.
    refine List.forall_mem_cons.2 ⟨⟨fun inner same => ?_, nofun⟩, fun node member => ?_⟩
    · cases same
      exact ⟨leaf, rfl, other⟩
    · cases List.mem_singleton.1 member
      refine ⟨nofun, fun id same => ?_⟩
      cases same
      exact other id rfl

/-- A tree is in negation normal form when no node in boolean position negates anything but a leaf
that is no attribute, and none is an attribute. -/
theorem negationNormal_of_positions {e : Expr}
    (spared : ∀ node ∈ e.positions, (∀ inner, node = .not inner →
      ∃ leaf, inner = .value leaf ∧ ∀ id, leaf ≠ .attributeRef id) ∧
      ∀ id, node ≠ .attributeRef id) : NegationNormal e := by
  -- What is said of the root settles every node but a connective, whose sides are told the same.
  induction e with
  | and left right ihl ihr =>
    obtain ⟨first, second⟩ := List.forall_mem_append.1 (List.forall_mem_cons.1 spared).2
    exact .and (ihl first) (ihr second)
  | or left right ihl ihr =>
    obtain ⟨first, second⟩ := List.forall_mem_append.1 (List.forall_mem_cons.1 spared).2
    exact .or (ihl first) (ihr second)
  | not inner _ =>
    obtain ⟨leaf, rfl, other⟩ := (spared _ List.mem_cons_self).1 inner rfl
    exact .negated other
  | compare op left right _ _ => exact .compare op left right
  | value leaf =>
    refine .leaf fun id same => ?_
    exact (spared _ (List.mem_singleton_self _)).2 id (congrArg value same)

/-- Pushing a negation down keeps negation normal form. -/
theorem NegationNormal.negate {e : Expr} (normal : NegationNormal e) : NegationNormal e.negate := by
  -- The induction is on the form: only there does a negation have nothing but a leaf below it, so
  -- taking it off leaves nothing to push further.
  induction normal with
  | and _ _ ihl ihr => exact .or ihl ihr
  | or _ _ ihl ihr => exact .and ihl ihr
  | compare op left right =>
    obtain ⟨op', right', same, _⟩ := negate_compare op left right
    rw [same]
    exact .compare op' left right'
  | @leaf leaf other =>
    -- A leaf is wrapped, unless it is an attribute.
    cases leaf with
    | attributeRef id => exact absurd rfl (other id)
    | literal _ | schemaType _ | endpointName _ => exact .negated nofun
  | negated other => exact .leaf other

/-- Lifting gives negation normal form, whatever it is given. -/
theorem negationNormal_lift (e : Expr) : NegationNormal e.lift := by
  -- A negation is pushed into a tree that has the form already.
  induction e with
  | and _ _ ihl ihr => exact .and ihl ihr
  | or _ _ ihl ihr => exact .or ihl ihr
  | not _ ih => exact ih.negate
  | compare op left right _ _ => exact .compare op left right
  | value leaf =>
    cases leaf with
    | attributeRef id => exact .compare _ _ _
    | literal _ | schemaType _ | endpointName _ => exact .leaf nofun

/-- Lifting leaves a tree in negation normal form as it is. -/
theorem NegationNormal.lift_eq {e : Expr} (normal : NegationNormal e) : e.lift = e := by
  -- No attribute stands alone, so only negations could change anything.
  induction normal with
  | and _ _ ihl ihr | or _ _ ihl ihr => rw [lift, ihl, ihr]
  | compare op left right => rfl
  | @leaf leaf other | @negated leaf other =>
    -- A negation is taken off its leaf and put back.
    cases leaf with
    | attributeRef id => exact absurd rfl (other id)
    | literal _ | schemaType _ | endpointName _ => rfl

end Subscription.Expr
