import Subscription.Filter
import Subscription.Proofs.Compile.Rows
import Subscription.Proofs.Normal.Disjunctive
import Subscription.Proofs.Normal.Growth
import Subscription.Proofs.Normal.Interpretation

/-! Compilation gives the same result before and after normalization, as long as the normal form is
not too deep. -/

namespace Subscription

namespace Interpretation

/-- Expressions valued by their number of groups, a comparison counting as its wider operand. -/
def groupCount : Interpretation Nat where
  meet := (· * ·)
  join := (· + ·)
  value _ := 1
  negation _ := 1
  comparison _ := max

/-- That number is the exact width. -/
theorem eval_groupCount (e : Expr) : groupCount.eval e = e.exactWidth := by
  -- Conjunctions and comparisons multiply as the interpretation does, and disjunctions add.
  induction e with
  | and left right ihl ihr | or left right ihl ihr | compare _ left right ihl ihr =>
    rw [eval, ihl, ihr]
    rfl
  | not _ _ | value _ => rfl

end Interpretation

namespace Expr

/-- Normalization leaves the number of groups as it is. -/
theorem exactWidth_normalize (e : Expr) : e.normalize.exactWidth = e.exactWidth := by
  -- Products of numbers distribute over their sums, so the value of a tree by them is kept.
  rw [← Interpretation.eval_groupCount, ← Interpretation.eval_groupCount]
  exact Interpretation.eval_normalize ⟨Nat.mul_add, Nat.add_mul⟩ e

/-- Normalization leaves the counted width as it is, also where it is cut off. -/
theorem width_normalize (e : Expr) : e.normalize.width = e.width := by
  -- It is cut off from the exact width, which normalization keeps.
  rw [width_eq_min, width_eq_min, exactWidth_normalize]

/--
Compiling a normal form is compiling the expression.

The counted width is the same, wherever it is cut off, and no level is lost. So where the limit on
levels admits the normal form, both give the same predicate or fail in the same way, be it for the
number of groups or for a leaf.
-/
theorem normal_form_compiles_alike (e : Expr) :
    e.normalize.width = e.width ∧ e.depth ≤ e.normalize.depth ∧
    ∀ resolver settings, e.normalize.depth ≤ settings.maxDepth →
      e.normalize.compile resolver settings = e.compile resolver settings := by
  have lower : e.depth ≤ e.normalize.depth := by
    rw [depth_eq_height, depth_eq_height]
    exact e.height_le_height_normalize
  refine ⟨e.width_normalize, lower, fun resolver settings shallow => ?_⟩
  -- The expression is no deeper, so neither is refused for its levels, and what is read is the
  -- normal form of the normal form.
  have admitted : e.depth ≤ settings.maxDepth := Nat.le_trans lower shallow
  rw [compile, compile, if_neg (Nat.not_lt.2 shallow), if_neg (Nat.not_lt.2 admitted),
    width_normalize, normalize_normalize]

/-- Two choices conjoined are refused for their four groups, whether they were distributed before or
not. -/
theorem normal_form_compiles_alike_refused :
    (Expr.and (.or (flag ⟨"a"⟩ true) (flag ⟨"b"⟩ true))
        (.or (flag ⟨"c"⟩ true) (flag ⟨"d"⟩ true))).normalize.compile .ofNames ⟨3, 5, true⟩ =
      .error (.groupLimitExceeded 4 3) := by
  -- Both forms are shallow enough, so only the number of groups is left to refuse them.
  have shallow : (Expr.and (.or (flag ⟨"a"⟩ true) (flag ⟨"b"⟩ true))
      (.or (flag ⟨"c"⟩ true) (flag ⟨"d"⟩ true))).normalize.depth ≤ 5 := by
    rw [depth_eq_height]
    decide
  have admitted : ¬ 5 < (Expr.and (.or (flag ⟨"a"⟩ true) (flag ⟨"b"⟩ true))
      (.or (flag ⟨"c"⟩ true) (flag ⟨"d"⟩ true))).depth := by
    rw [depth_eq_height]
    decide
  rw [(normal_form_compiles_alike _).2.2 _ _ shallow, compile, if_neg admitted]
  rfl

end Expr

end Subscription
