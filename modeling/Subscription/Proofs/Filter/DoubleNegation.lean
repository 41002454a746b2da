import Subscription.Proofs.Filter.Construction

/-! Laws of negation: filters keep the laws of De Morgan, a third negation undoes the second one,
and the second one undoes the first but for tests of inequality to a truth value. -/

namespace Subscription

namespace Expr

/-- The tree restated: every test of inequality to a truth value, in boolean position, becomes a
test of equality with the other one. -/
def restate : Expr → Expr
  | .and left right => .and left.restate right.restate
  | .or left right => .or left.restate right.restate
  | .not inner => .not inner.restate
  | .compare .notEqual left (.value (.literal (.bool b))) =>
    .compare .equal left (.literal (.bool !b))
  | e => e

/-- A node that tests inequality to a truth value. -/
inductive DeniesTruth : Expr → Prop where
  | intro (left : Expr) (b : Bool) : DeniesTruth (.compare .notEqual left (.literal (.bool b)))

/-- Inequality to a truth value is restated as equality with the other one. -/
theorem restate_denial (left : Expr) (b : Bool) :
    (Expr.compare .notEqual left (.literal (.bool b))).restate =
      .compare .equal left (.literal (.bool !b)) := rfl

/-- No other comparison changes when it is restated. -/
theorem restate_compare_other {op : CompareOp} {left right : Expr}
    (other : ¬ DeniesTruth (.compare op left right)) :
    (Expr.compare op left right).restate = .compare op left right := by
  -- All equations of the definition but the last one are about inequality to a truth value.
  rw [restate]
  · exact nofun
  · exact nofun
  · exact nofun
  · intro left b same
    rw [same] at other
    exact other (.intro left b)

/-- Restating leaves a tree as it is exactly when no test of inequality to a truth value stands in
boolean position. -/
theorem restate_eq_self_iff {e : Expr} :
    e.restate = e ↔ ∀ node ∈ e.positions, ¬ node.DeniesTruth := by
  induction e with
  | and left right ihl ihr | or left right ihl ihr =>
    -- A connective is no comparison, so its sides decide.
    rw [positions, List.forall_mem_cons, List.forall_mem_append, ← ihl, ← ihr]
    simp only [restate, and.injEq, or.injEq]
    exact (and_iff_right nofun).symm
  | not inner ih =>
    rw [positions, List.forall_mem_cons, ← ih]
    simp only [restate, not.injEq]
    exact (and_iff_right nofun).symm
  | compare op left right _ _ =>
    rw [positions, List.forall_mem_singleton]
    · by_cases denies : DeniesTruth (.compare op left right)
      · cases denies with
        | intro left b =>
          rw [restate_denial]
          exact ⟨nofun, fun spared => absurd (.intro left b) spared⟩
      · exact ⟨fun _ => denies, fun _ => restate_compare_other denies⟩
    all_goals exact nofun
  | value leaf => exact ⟨fun _ => List.forall_mem_singleton.2 nofun, fun _ => rfl⟩

/-- A restated tree equals the tree, as floats compare, exactly when restating changes nothing and
the tree equals itself. -/
theorem same_restate_iff {e : Expr} :
    e.restate.same e = true ↔ e.restate = e ∧ e.same e = true := by
  induction e with
  | and left right ihl ihr | or left right ihl ihr =>
    simp only [restate, same, Bool.and_eq_true, ihl, ihr, and.injEq, or.injEq]
    exact and_and_and_comm
  | not inner ih => simp only [restate, same, ih, not.injEq]
  | compare op left right _ _ =>
    by_cases denies : DeniesTruth (.compare op left right)
    · -- The operators differ, and so do the trees.
      cases denies with
      | intro left b => simp [restate_denial, same]
    · rw [restate_compare_other denies]
      exact (and_iff_right rfl).symm
  | value leaf => exact (and_iff_right rfl).symm

/-- A second negation restates a comparison. -/
theorem negate_negate_compare_eq (op : CompareOp) (left right : Expr) :
    (Expr.compare op left right).negate.negate = (Expr.compare op left right).restate := by
  -- What a second negation leaves different is what is restated.
  by_cases denies : DeniesTruth (.compare op left right)
  · cases denies with
    | intro left b => rfl
  · rw [restate_compare_other denies]
    rcases negate_negate_compare op left right with same | ⟨b, rfl, rfl, -⟩
    · exact same
    · exact absurd (.intro left b) denies

/-- In negation normal form a second negation restates the tree, and changes nothing else. -/
theorem NegationNormal.negate_negate {e : Expr} (normal : NegationNormal e) :
    e.negate.negate = e.restate := by
  -- Every connective is exchanged and exchanged back.
  induction normal with
  | and _ _ ihl ihr | or _ _ ihl ihr => rw [Expr.negate, Expr.negate, ihl, ihr, restate]
  | compare op left right => exact negate_negate_compare_eq op left right
  | @leaf leaf other | @negated leaf other =>
    -- A negation is put on the leaf and taken off again, or the other way round.
    cases leaf with
    | attributeRef id => exact absurd rfl (other id)
    | literal _ | schemaType _ | endpointName _ => rfl

/-- A negation does not see whether the tree was restated. -/
theorem NegationNormal.negate_restate {e : Expr} (normal : NegationNormal e) :
    e.restate.negate = e.negate := by
  induction normal with
  | and _ _ ihl ihr | or _ _ ihl ihr => simp only [restate, Expr.negate, ihl, ihr]
  | compare op left right =>
    by_cases denies : DeniesTruth (.compare op left right)
    · -- The value is turned when the test is written, and turned back by the negation.
      cases denies with
      | intro left b =>
        show Expr.compare .equal left (.literal (.bool !!b)) = _
        rw [Bool.not_not]
        rfl
    · rw [restate_compare_other denies]
  | leaf _ | negated _ => rfl

/-- A negation turns truth values at most, so it holds a float that is not a number exactly when
what it negates does. -/
theorem nan_mem_values_negate (e : Expr) :
    .literal (.float .nan) ∈ e.negate.values ↔ .literal (.float .nan) ∈ e.values := by
  -- The induction stops at a negation, which is taken off without a change to what is below it.
  induction e with
  | and left right ihl ihr | or left right ihl ihr =>
    simp only [negate, values, List.mem_append, ihl, ihr]
  | not inner _ => rfl
  | compare op left right _ _ =>
    obtain ⟨op', right', same, opposite⟩ := negate_compare op left right
    rw [same]
    rcases opposite.right_eq with rfl | ⟨b, rfl, rfl⟩
    · rfl
    · simp [values, literal]
  | value leaf => cases leaf <;> simp [negate, flag, values, literal, attributeRef]

end Expr

namespace Filter

variable {f g : Filter}

/-- The filter with its expression restated. -/
def restate (f : Filter) : Filter :=
  ⟨f.expr.map Expr.restate⟩

/-- The nodes of a filter in boolean position. -/
def positions (f : Filter) : List Expr :=
  f.expr.elim [] Expr.positions

/-- A filter without a float that is not a number. -/
def Numeric (f : Filter) : Prop :=
  ∀ x ∈ f.expr, .literal (.float .nan) ∉ x.values

/-- Restating leaves a filter as it is exactly when it has no test of inequality to a truth value in
boolean position. -/
theorem restate_eq_self_iff : f.restate = f ↔ ∀ node ∈ f.positions, ¬ node.DeniesTruth := by
  -- The empty filter has no positions and nothing to restate.
  obtain ⟨expr⟩ := f
  cases expr with
  | none => exact ⟨fun _ => nofun, fun _ => rfl⟩
  | some x => simp [restate, positions, Expr.restate_eq_self_iff]

/-- A filter equals itself, as floats compare, unless it has one that is not a number. -/
theorem same_self_iff : f.same f = true ↔ f.Numeric := by
  -- The empty filter has no floats and equals itself.
  obtain ⟨expr⟩ := f
  cases expr with
  | none => exact ⟨fun _ => nofun, fun _ => rfl⟩
  | some x => simp [same, Numeric, Expr.same_self_iff]

/-- A restated filter equals the filter, as floats compare, exactly when restating changes nothing
and the filter has no float that is not a number. -/
theorem same_restate_iff : f.restate.same f = true ↔ f.restate = f ∧ f.Numeric := by
  -- Behind the empty filter, this is the law of expressions.
  rw [← same_self_iff]
  obtain ⟨expr⟩ := f
  cases expr with
  | none => exact ⟨fun _ => ⟨rfl, rfl⟩, fun _ => rfl⟩
  | some x => simp [restate, same, Expr.same_restate_iff]

/-- The negation of a filter is without a float that is not a number exactly when the filter is. -/
theorem numeric_not : f.not.Numeric ↔ f.Numeric := by
  -- Negation keeps the empty filter empty.
  obtain ⟨expr⟩ := f
  cases expr with
  | none => exact Iff.rfl
  | some x => simp [Numeric, not, Expr.nan_mem_values_negate]

/-- A combination is without such a float exactly when both of its sides are. -/
theorem numeric_combine {connective : Expr → Expr → Expr}
    (both : ∀ a b, (connective a b).values = a.values ++ b.values) :
    (combine connective f g).Numeric ↔ f.Numeric ∧ g.Numeric := by
  -- Where one side is empty, the other one is the combination.
  obtain ⟨first⟩ := f
  obtain ⟨second⟩ := g
  cases first <;> cases second <;> simp [Numeric, combine, both]

/-- Negating a combination negates both sides, where the connectives are dual to each other. -/
theorem not_combine {connective dual : Expr → Expr → Expr}
    (deMorgan : ∀ a b, (connective a b).negate = dual a.negate b.negate) (f g : Filter) :
    (combine connective f g).not = combine dual f.not g.not := by
  obtain ⟨first⟩ := f
  obtain ⟨second⟩ := g
  -- Beside an empty filter no connective comes in, and the empty filter is its own negation.
  cases first <;> cases second <;> simp [combine, not, deMorgan]

end Filter

namespace Construction

/-- A second negation restates a filter, and changes nothing else. -/
theorem not_not_filter (c : Construction) : c.filter.not.not = c.filter.restate := by
  rw [Filter.not, Filter.not, Filter.restate, Filter.mk.injEq, Option.map_map]
  -- Only in negation normal form is what a negation takes off what another one put on.
  exact Option.map_congr fun x built => (c.negationNormal x built).negate_negate

/-- Inequality to a truth value is where a second negation differs from none. -/
example (id : AttributeId) (b : Bool) :
    (Construction.compare .notEqual id (.literal (.bool b))).filter.not.not =
      Filter.compare .equal id (.literal (.bool !b)) := rfl

/-- A third negation of a filter is the first one. -/
theorem not_not_not_filter (c : Construction) : c.filter.not.not.not = c.filter.not := by
  -- The first two negations restate, and negating hides what was restated.
  rw [not_not_filter, Filter.restate, Filter.not, Filter.not, Filter.mk.injEq, Option.map_map]
  exact Option.map_congr fun x built => (c.negationNormal x built).negate_restate

/--
The algebra of negation, for filters however they are put together.

A second negation restates the filter and changes nothing else, so it gives the filter back exactly
when no test of inequality to a truth value stands in boolean position. A third negation is the
first one. The negation of a conjunction is the disjunction of the negations, and the other way
round, also where a side is empty.

These are equalities of trees. As floats compare, they hold exactly where no float of the filters is
not a number.
-/
theorem negation_laws (c d : Construction) :
    (c.filter.not.not = c.filter.restate ∧
      (c.filter.not.not.same c.filter.restate = true ↔ c.filter.Numeric) ∧
      (c.filter.not.not = c.filter ↔ ∀ node ∈ c.filter.positions, ¬ node.DeniesTruth) ∧
      (c.filter.not.not.same c.filter = true ↔
        (∀ node ∈ c.filter.positions, ¬ node.DeniesTruth) ∧ c.filter.Numeric)) ∧
    (c.filter.not.not.not = c.filter.not ∧
      (c.filter.not.not.not.same c.filter.not = true ↔ c.filter.Numeric)) ∧
    ((c.filter.and d.filter).not = c.filter.not.or d.filter.not ∧
      ((c.filter.and d.filter).not.same (c.filter.not.or d.filter.not) = true ↔
        c.filter.Numeric ∧ d.filter.Numeric)) ∧
    ((c.filter.or d.filter).not = c.filter.not.and d.filter.not ∧
      ((c.filter.or d.filter).not.same (c.filter.not.and d.filter.not) = true ↔
        c.filter.Numeric ∧ d.filter.Numeric)) := by
  have ofAnd : (c.filter.and d.filter).not = c.filter.not.or d.filter.not :=
    Filter.not_combine (fun _ _ => rfl) _ _
  have ofOr : (c.filter.or d.filter).not = c.filter.not.and d.filter.not :=
    Filter.not_combine (fun _ _ => rfl) _ _
  -- As floats compare, what is one tree on both sides equals itself unless such a float is in it.
  refine ⟨⟨c.not_not_filter, ?_, ?_, ?_⟩, ⟨c.not_not_not_filter, ?_⟩, ⟨ofAnd, ?_⟩, ofOr, ?_⟩
  · rw [← not_not_filter, Filter.same_self_iff, Filter.numeric_not, Filter.numeric_not]
  · rw [not_not_filter, Filter.restate_eq_self_iff]
  · rw [not_not_filter, Filter.same_restate_iff, Filter.restate_eq_self_iff]
  · rw [not_not_not_filter, Filter.same_self_iff, Filter.numeric_not]
  · rw [← ofAnd, Filter.same_self_iff, Filter.numeric_not, Filter.and,
      Filter.numeric_combine fun _ _ => rfl]
  · rw [← ofOr, Filter.same_self_iff, Filter.numeric_not, Filter.or,
      Filter.numeric_combine fun _ _ => rfl]

/-- A third negation is not always equal to the first one: a float that is not a number differs from
itself in both. -/
theorem thrice_negated_nan_differs :
    ¬ ∀ c : Construction, c.filter.not.not.not.same c.filter.not = true := by
  -- Equality is asked of every construction, and refused by a single comparison.
  intro equal
  cases equal (.compare .equal ⟨"a"⟩ (.literal (.float .nan)))

end Construction

end Subscription
