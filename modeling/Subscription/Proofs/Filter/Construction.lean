import Subscription.Proofs.Expr
import Subscription.Proofs.Filter.Operands

/-! Filters as their constructors and combinators build them: every one is in negation normal form,
made of the comparisons that were written, and the filter of its own expression. -/

namespace Subscription

/-- The calls of constructors and combinators that lead to a filter. Each comparison by name is a
comparison with its operator. -/
inductive Construction where
  | ofExpr (e : Expr)
  | empty
  | flag (id : AttributeId)
  | present (id : AttributeId)
  | compare (op : CompareOp) (id : AttributeId) (value : Value)
  | and (first second : Construction)
  | or (first second : Construction)
  | not (inner : Construction)

/-- The operands of every comparison that a filter is made of. -/
def Filter.operands (f : Filter) : List Operands :=
  f.expr.elim [] (Expr.operands 0)

/-- Two filters under a connective are made of the comparisons of both. -/
theorem Filter.operands_combine {connective : Expr → Expr → Expr}
    (both : ∀ a b, (connective a b).operands 0 = a.operands 0 ++ b.operands 0) (f g : Filter) :
    (Filter.combine connective f g).operands = f.operands ++ g.operands := by
  obtain ⟨first⟩ := f
  obtain ⟨second⟩ := g
  -- An empty filter has no comparisons, and the other one is taken as it is.
  cases first with
  | none => rfl
  | some a =>
    cases second with
    | none => exact (List.append_nil _).symm
    | some b => exact both a b

/-- What the expressions of two filters have in common, a connective that keeps it passes on. -/
theorem Filter.forall_combine {connective : Expr → Expr → Expr} {P : Expr → Prop}
    (kept : ∀ a b, P a → P b → P (connective a b)) {f g : Filter} (first : ∀ a ∈ f.expr, P a)
    (second : ∀ b ∈ g.expr, P b) : ∀ x ∈ (Filter.combine connective f g).expr, P x := by
  obtain ⟨left⟩ := f
  obtain ⟨right⟩ := g
  intro x built
  -- Only where neither filter is empty does the connective come in.
  cases left with
  | none => exact second x built
  | some a =>
    cases right with
    | none => exact first x built
    | some b =>
      cases built
      exact kept a b (first a rfl) (second b rfl)

namespace Construction

/-- The filter that a construction leads to. -/
def filter : Construction → Filter
  | .ofExpr e => .ofExpr e
  | .empty => .empty
  | .flag id => .flag id
  | .present id => .present id
  | .compare op id value => .compare op id value
  | .and first second => first.filter.and second.filter
  | .or first second => first.filter.or second.filter
  | .not inner => inner.filter.not

/-- The operands of every comparison that a construction writes, from left to right. -/
def operands (negations : Nat) : Construction → List Operands
  | .ofExpr e => e.operands negations
  | .empty => []
  | .flag id => [⟨.attributeRef id, .literal (.bool true), negations⟩]
  | .present id => [⟨.attributeRef id, .literal .null, negations⟩]
  | .compare _ id value => [⟨.attributeRef id, .value value, negations⟩]
  | .and first second | .or first second =>
    first.operands negations ++ second.operands negations
  | .not inner => inner.operands (negations + 1)

/-- The expression of a filter is in negation normal form. -/
theorem negationNormal (c : Construction) : ∀ x ∈ c.filter.expr, x.NegationNormal := by
  -- Only the negation of a filter needs the form of what it negates.
  induction c with
  | ofExpr e =>
    intro x built
    cases built
    exact e.negationNormal_lift
  | empty => exact nofun
  | flag _ | present _ | compare _ _ _ =>
    intro x built
    cases built
    exact .compare _ _ _
  | and first second ihf ihs => exact Filter.forall_combine (fun _ _ => .and) ihf ihs
  | or first second ihf ihs => exact Filter.forall_combine (fun _ _ => .or) ihf ihs
  | not inner ih =>
    intro x built
    obtain ⟨y, inside, rfl⟩ := Option.map_eq_some_iff.1 built
    exact (ih y inside).negate

/-- Every negation that stands over a construction stands over its comparisons. -/
theorem le_negations {c : Construction} {negations : Nat} :
    ∀ written ∈ c.operands negations, negations ≤ written.negations := by
  -- A negation in the construction adds one to those that stand over all of it.
  induction c generalizing negations with
  | ofExpr e => exact e.le_negations
  | empty => exact nofun
  | flag _ | present _ | compare _ _ _ =>
    intro written member
    cases List.mem_singleton.1 member
    exact Nat.le_refl _
  | and first second ihf ihs | or first second ihf ihs =>
    exact List.forall_mem_append.2 ⟨ihf, ihs⟩
  | not inner ih =>
    intro written member
    have deeper := ih written member
    omega

/-- A filter is made of the comparisons that its construction wrote, each with its operands. -/
theorem operands_filter (c : Construction) (negations : Nat) :
    List.Forall₂ Operands.KeptAs (c.operands negations) c.filter.operands := by
  -- The induction is over the calls, each of which keeps what the earlier ones wrote.
  induction c generalizing negations with
  | ofExpr e => exact e.operands_lift negations
  | empty => exact .nil
  | flag _ | present _ | compare _ _ _ => exact Operands.keptAs_self _ _ negations 0
  | and first second ihf ihs =>
    rw [filter, Filter.and, Filter.operands_combine fun _ _ => rfl]
    exact List.rel_append (ihf negations) (ihs negations)
  | or first second ihf ihs =>
    rw [filter, Filter.or, Filter.operands_combine fun _ _ => rfl]
    exact List.rel_append (ihf negations) (ihs negations)
  | not inner ih =>
    have under : ∀ written ∈ inner.operands (negations + 1), 0 < written.negations :=
      fun written member => Nat.lt_of_lt_of_le (Nat.succ_pos _) (le_negations written member)
    -- The empty filter stays empty, and in any other the negation is pushed down.
    have turned : List.Forall₂ Operands.TurnedTo inner.filter.operands
        inner.filter.not.operands := by
      rw [Filter.operands, Filter.operands, Filter.not]
      cases built : inner.filter.expr with
      | none => exact .nil
      | some x => exact (inner.negationNormal x built).operands_negate 0
    exact Operands.keptAs_turned (ih (negations + 1)) under turned

/--
What every filter looks like, however it is put together.

A negation in boolean position wraps nothing but a leaf that is no attribute, and no attribute
stands there alone.

The comparisons are those that were written, in their order, and each has the operands that were
written, except that negations over it may have turned a truth value on its right.

The filter of its expression is the filter itself, tree for tree; as floats compare, the two are
equal exactly when the expression holds no float that is not a number.
-/
theorem filter_negationNormal (c : Construction) {x : Expr} (built : c.filter.expr = some x) :
    (∀ node ∈ x.positions,
      (∀ inner, node = .not inner →
        ∃ leaf, inner = .value leaf ∧ ∀ id, leaf ≠ .attributeRef id) ∧
      ∀ id, node ≠ .attributeRef id) ∧
    List.Forall₂ Operands.KeptAs (c.operands 0) (x.operands 0) ∧
    Filter.ofExpr x = c.filter ∧
    ((Filter.ofExpr x).same c.filter = true ↔ .literal (.float .nan) ∉ x.values) := by
  have normal := c.negationNormal x built
  have made : c.filter.operands = x.operands 0 := by rw [Filter.operands, built, Option.elim_some]
  have whole : c.filter = ⟨some x⟩ := congrArg Filter.mk built
  -- The expression was lifted when it was wrapped, and lifting it again changes nothing.
  have wrapped : Filter.ofExpr x = ⟨some x⟩ := by rw [Filter.ofExpr, normal.lift_eq]
  refine ⟨normal.positions, made ▸ c.operands_filter 0, wrapped.trans whole.symm, ?_⟩
  rw [wrapped, whole]
  exact x.same_self_iff

/-- A negated flag beside a negated schema type: the flag turns, and the schema type stays wrapped
when the filter of the expression is taken again. -/
theorem filter_negationNormal_wrapped :
    Filter.ofExpr (.or (.flag ⟨"a"⟩ false) (.not (.value (.schemaType ⟨"s"⟩)))) =
      (Construction.not (.ofExpr (.and (.attributeRef ⟨"a"⟩)
        (.value (.schemaType ⟨"s"⟩))))).filter :=
  -- The negation has gone into the conjunction when the filter was built.
  (filter_negationNormal (.not (.ofExpr (.and (.attributeRef ⟨"a"⟩)
    (.value (.schemaType ⟨"s"⟩))))) rfl).2.2.1

/-- Wrapping an expression again does not always give an equal filter: a float that is not a number
differs from itself. -/
theorem rewrapped_nan_differs :
    ¬ ∀ (c : Construction) (x : Expr), c.filter.expr = some x →
      (Filter.ofExpr x).same c.filter = true := by
  intro equal
  have whole := equal (.compare .equal ⟨"a"⟩ (.literal (.float .nan))) _ rfl
  -- Both filters are the one comparison, and its right operand is what differs.
  cases whole

end Construction

end Subscription
