import Subscription.Proofs.Filter.Combination
import Subscription.Proofs.Filter.NegationNormal

/-! An expression that compiles as it stands compiles to the same predicate as a filter, and one
that lifting leaves alone has every outcome in common with its filter. -/

namespace Subscription.Expr

variable {resolver : Resolver} {settings : Settings} {e : Expr}

/-- A tree whose leaves can all be expressed is in negation normal form. -/
theorem negationNormal_of_leaves (expressible : ∀ leaf ∈ e.leaves, Expressible resolver leaf) :
    NegationNormal e := by
  -- Only comparisons can be expressed, so no negation and no leaf operand is met.
  induction e with
  | and left right ihl ihr =>
    obtain ⟨first, second⟩ := List.forall_mem_append.1 expressible
    exact .and (ihl first) (ihr second)
  | or left right ihl ihr =>
    obtain ⟨first, second⟩ := List.forall_mem_append.1 expressible
    exact .or (ihl first) (ihr second)
  | compare op left right _ _ => exact .compare op left right
  | not _ _ | value _ => cases expressible _ (.head _)

/-- What compiles as it stands is in negation normal form. -/
theorem negationNormal_of_compile {p : Predicate} (compiled : e.compile resolver settings = .ok p) :
    NegationNormal e := by
  -- Distribution repeats and reorders leaves but loses none, so every one of them was read.
  obtain ⟨-, -, expressible⟩ := compile_succeeds_iff.1 ⟨p, compiled⟩
  exact negationNormal_of_leaves expressible

/-- In negation normal form, the filter of an expression compiles as the expression does. -/
theorem NegationNormal.compile_ofExpr (normal : NegationNormal e) (resolver : Resolver)
    (settings : Settings) :
    (Filter.ofExpr e).compile resolver settings = e.compile resolver settings := by
  -- Lifting gives back the tree itself, so its levels, its width and its leaves are the same.
  apply Filter.compile_eq_of_expr
  show some e.lift = some e
  rw [normal.lift_eq]

/--
Taking an expression as a filter changes nothing about what compiles without that.

The predicate of an expression is the predicate of its filter.

Where no attribute stands alone in boolean position and every negation there is that of another
leaf, the two have every outcome in common: the predicate, the limit that is exceeded, or the
failure of a leaf with its kind and its text.
-/
theorem ofExpr_keeps_outcomes (e : Expr) :
    (∀ resolver settings p, e.compile resolver settings = .ok p →
      (Filter.ofExpr e).compile resolver settings = .ok p) ∧
    ((∀ node ∈ e.positions,
        (∀ inner, node = .not inner →
          ∃ leaf, inner = .value leaf ∧ ∀ id, leaf ≠ .attributeRef id) ∧
        ∀ id, node ≠ .attributeRef id) →
      ∀ resolver settings,
        (Filter.ofExpr e).compile resolver settings = e.compile resolver settings) := by
  -- Either condition puts the expression in negation normal form, where lifting changes nothing
  -- that is compiled.
  constructor
  · intro resolver settings p compiled
    rw [(negationNormal_of_compile compiled).compile_ofExpr]
    exact compiled
  · intro spared resolver settings
    exact (negationNormal_of_positions spared).compile_ofExpr resolver settings

/-- A choice of flags has the same groups as a filter; beside a negated schema type, which lifting
leaves alone, both ways report that negation, or the levels where only two are allowed. -/
theorem ofExpr_keeps_outcomes_refused :
    (Filter.ofExpr (.or (flag ⟨"a"⟩ true) (flag ⟨"b"⟩ false))).compile .ofNames {} =
        .ok ⟨[[.comparison "a" .equal "True"], [.comparison "b" .equal "False"]]⟩ ∧
      (Filter.ofExpr (.and (flag ⟨"a"⟩ true) (.not (.value (.schemaType ⟨"s"⟩))))).compile
          .ofNames {} = .error (.unsupportedShape .not "!schema(s)") ∧
      (Filter.ofExpr (.and (flag ⟨"a"⟩ true) (.not (.value (.schemaType ⟨"s"⟩))))).compile
          .ofNames ⟨256, 2, true⟩ = .error (.depthLimitExceeded 3 2) := by
  have negated : NegationNormal (.not (.value (.schemaType ⟨"s"⟩))) := .negated nofun
  have spared := (NegationNormal.and (.compare .equal (.attributeRef ⟨"a"⟩) (.literal (.bool true)))
    negated).positions
  -- The first filter compiles, and the two others are refused for the leaf and for the levels.
  refine ⟨(ofExpr_keeps_outcomes _).1 _ _ _ ?_, ((ofExpr_keeps_outcomes _).2 spared _ _).trans ?_,
    ((ofExpr_keeps_outcomes _).2 spared _ _).trans ?_⟩
  · refine compile_eq_ok_iff.2 ⟨?_, by decide, rfl⟩
    rw [depth_eq_height]
    decide
  · rw [compile_eq_groups ?_ (by decide)]
    · rfl
    · rw [depth_eq_height]
      decide
  · rw [compile, depth_eq_height]
    rfl

/-- The converse does not hold: an attribute alone compiles as a filter only. -/
example : (Expr.attributeRef ⟨"a"⟩).compile .ofNames {} = .error (.unsupportedShape .value "a") ∧
    (Filter.ofExpr (.attributeRef ⟨"a"⟩)).compile .ofNames {} =
      .ok ⟨[[.comparison "a" .equal "True"]]⟩ := by
  constructor
  · cbv
  · cbv

end Subscription.Expr
