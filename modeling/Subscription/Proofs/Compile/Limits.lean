import Subscription.Filter
import Subscription.Proofs.Compile.Rows
import Subscription.Proofs.Normal.Growth

/-! The limits checked before expansion bound the expansion and what is compiled from it. -/

namespace Subscription.Expr

/--
The group limit bounds the work of expansion.

Normalization multiplies the nodes by the exact width at most, adds fewer levels than that width,
and leaves no maximal disjunction outside negations with more disjuncts than it.

An expression that passes both checks is compiled from its normal form, whose nodes and levels are
then bounded by the limits.
-/
theorem expansion_bounded (e : Expr) :
    e.normalize.size ≤ e.exactWidth * e.size ∧
    e.depth ≤ e.normalize.depth ∧
    e.normalize.depth ≤ e.depth + e.exactWidth - 1 ∧
    (∀ tree ∈ e.normalize.orTrees, tree.disjuncts.length ≤ e.exactWidth) ∧
    ∀ settings : Settings, e.depth ≤ settings.maxDepth → e.width ≤ settings.maxGroups →
      settings.maxGroups < 2 ^ 64 - 1 →
        (∀ resolver, e.compile resolver settings = e.normalize.toPredicate resolver) ∧
        e.normalize.size ≤ settings.maxGroups * e.size ∧
        e.normalize.depth ≤ settings.maxDepth + settings.maxGroups - 1 := by
  have lower := e.height_le_height_normalize
  have upper := e.height_normalize_lt
  simp only [depth_eq_height]
  refine ⟨e.size_normalize_le, lower, by omega, fun tree => breadth_le_of_mem_orTrees, ?_⟩
  intro settings shallow narrow below
  -- Below the cut the counted width is the exact one, so the limit bounds the latter too.
  have exact : e.exactWidth ≤ settings.maxGroups := exactWidth_le_of_width_le below narrow
  refine ⟨fun resolver => ?_, ?_, by omega⟩
  · exact compile_eq_groups (by rwa [depth_eq_height]) narrow
  · exact Nat.le_trans e.size_normalize_le (Nat.mul_le_mul_right e.size exact)

/-- A comparison with an operand of four groups counts as four wide, and is expanded within that. -/
theorem expansion_bounded_operand :
    (Expr.compare .equal (.literal .null) (.and (.or (.literal .null) (.literal .null))
      (.or (.literal .null) (.literal .null)))).normalize.size ≤ 4 * 9 :=
  -- The tree has nine nodes, and the limits admit four groups.
  ((expansion_bounded _).2.2.2.2 ⟨4, 4, true⟩ (by rw [depth_eq_height]; decide) (by decide)
    (by decide)).2.1

/-- An expressible comparison stands for one group. -/
theorem Expressible.exactWidth_eq {resolver : Resolver} {e : Expr}
    (expressible : Expressible resolver e) : e.exactWidth = 1 := by
  -- Both operands are leaves, so the wider of them has width one.
  cases expressible
  rfl

/-- Compiled groups correspond to the rows of the expression, and their statements to its leaves. -/
theorem groups_length_eq {resolver : Resolver} {e : Expr} {groups : List Group}
    (read : e.normalize.groups resolver = .ok groups) :
    groups.length = e.rows.length ∧ groups.flatten.length = e.rows.flatten.length := by
  have same := groups_eq_rows read
  constructor
  · -- Equal lists of groups and rows are equally long.
    have rowwise := congrArg List.length same
    rwa [List.length_map, List.length_map] at rowwise
  · -- Putting the rows end to end commutes with reading them.
    have entrywise := congrArg (fun table => table.flatten.length) same
    simp only [← List.map_flatten, List.length_map] at entrywise
    exact entrywise

/--
The count made before expansion is the exact width cut off at sixty-four bits.

Where compilation succeeds, it gives exactly as many groups as that width and as many statements as
the leaves counted along the tree, and a limit below the cut bounds the groups.
-/
theorem width_exact (e : Expr) :
    e.width = min (2 ^ 64 - 1) e.exactWidth ∧
    ∀ (resolver : Resolver) (settings : Settings) (p : Predicate),
      e.compile resolver settings = .ok p →
        p.groups.length = e.exactWidth ∧ p.statementCount = e.rowTotal ∧
        (settings.maxGroups < 2 ^ 64 - 1 → p.groups.length ≤ settings.maxGroups) := by
  refine ⟨width_eq_min e, fun resolver settings p compiled => ?_⟩
  obtain ⟨-, within, read⟩ := compile_eq_ok_iff.1 compiled
  -- Every leaf was expressible, so each stands for one group.
  have expressible := groups_normalize_succeeds_iff.1 ⟨_, read⟩
  have narrow : ∀ leaf ∈ e.leaves, leaf.exactWidth = 1 :=
    fun leaf member => (expressible leaf member).exactWidth_eq
  obtain ⟨groups, statements⟩ := groups_length_eq read
  have exact : p.groups.length = e.exactWidth := groups.trans (length_rows_eq narrow)
  refine ⟨exact, statements.trans (length_flatten_rows narrow), fun below => ?_⟩
  rw [exact]
  exact exactWidth_le_of_width_le below within

/-- A choice of two flags beside a third one compiles to two groups of two statements each. -/
theorem width_exact_choice :
    ∃ p, (Expr.and (.or (flag ⟨"a"⟩ true) (flag ⟨"b"⟩ true)) (flag ⟨"c"⟩ false)).compile
        .ofNames {} = .ok p ∧ p.groups.length = 2 ∧ p.statementCount = 4 := by
  -- The third flag is compiled into each group of the choice.
  have compiled : (Expr.and (.or (flag ⟨"a"⟩ true) (flag ⟨"b"⟩ true)) (flag ⟨"c"⟩ false)).compile
      .ofNames {} = .ok ⟨[[.comparison "a" .equal "True", .comparison "c" .equal "False"],
        [.comparison "b" .equal "True", .comparison "c" .equal "False"]]⟩ := by
    refine compile_eq_ok_iff.2 ⟨?_, by decide, rfl⟩
    rw [depth_eq_height]
    decide
  obtain ⟨groups, statements, -⟩ := (width_exact _).2 _ _ _ compiled
  exact ⟨_, compiled, groups, statements⟩

end Subscription.Expr
