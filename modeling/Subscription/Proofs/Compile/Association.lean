import Mathlib.Logic.Relation
import Subscription.Filter
import Subscription.Proofs.Compile.Rows
import Subscription.Proofs.Normal.Width

/-! Compilation does not see how chains of one connective are bracketed. -/

namespace Subscription.Expr

/-- One change of brackets in a chain of conjunctions or of disjunctions, at any node that
connectives lead to. -/
inductive Rebracketed : Expr → Expr → Prop where
  | and (a b c : Expr) : Rebracketed (.and (.and a b) c) (.and a (.and b c))
  | or (a b c : Expr) : Rebracketed (.or (.or a b) c) (.or a (.or b c))
  | andLeft {left changed : Expr} (step : Rebracketed left changed) (right : Expr) :
      Rebracketed (.and left right) (.and changed right)
  | andRight {right changed : Expr} (left : Expr) (step : Rebracketed right changed) :
      Rebracketed (.and left right) (.and left changed)
  | orLeft {left changed : Expr} (step : Rebracketed left changed) (right : Expr) :
      Rebracketed (.or left right) (.or changed right)
  | orRight {right changed : Expr} (left : Expr) (step : Rebracketed right changed) :
      Rebracketed (.or left right) (.or left changed)

/-- Any number of such changes, in either direction. -/
def Reassociated : Expr → Expr → Prop :=
  Relation.EqvGen Rebracketed

variable {e changed : Expr}

/-- A change of brackets leaves the rows of an expression as they are, in the same order. -/
theorem Rebracketed.rows_eq (step : Rebracketed e changed) : e.rows = changed.rows := by
  -- The induction is on where the change is made; around it both sides are put together alike.
  induction step with
  | and a b c => exact joinRows_assoc a.rows b.rows c.rows
  | or a b c => exact List.append_assoc a.rows b.rows c.rows
  | andLeft _ _ ih | andRight _ _ ih | orLeft _ _ ih | orRight _ _ ih => simp only [rows, ih]

/-- A change of brackets leaves the number of groups as it is. -/
theorem Rebracketed.exactWidth_eq (step : Rebracketed e changed) :
    e.exactWidth = changed.exactWidth := by
  -- Products and sums associate, and the count of a node depends on its operands' counts alone.
  induction step with
  | and a b c => exact Nat.mul_assoc _ _ _
  | or a b c => exact Nat.add_assoc _ _ _
  | andLeft _ _ ih | andRight _ _ ih | orLeft _ _ ih | orRight _ _ ih => simp only [exactWidth, ih]

/-- What one change of brackets keeps is kept by any number of them. -/
theorem Reassociated.kept {α : Type} {f : Expr → α}
    (once : ∀ {a b}, Rebracketed a b → f a = f b) (chain : Reassociated e changed) :
    f e = f changed := by
  -- The changes are taken one after the other, each forwards or backwards.
  induction chain with
  | rel _ _ step => exact once step
  | refl _ => rfl
  | symm _ _ _ ih => exact ih.symm
  | trans _ _ _ _ _ first second => exact first.trans second

/-- The counted width does not depend on brackets, also where it is cut off. -/
theorem Reassociated.width_eq (chain : Reassociated e changed) : e.width = changed.width := by
  -- The count is the exact width cut off once, however the operands were cut off before.
  rw [width_eq_min, width_eq_min, chain.kept Rebracketed.exactWidth_eq]

/-- Nor does the reading of the normal form, whose failures come in the order of the rows. -/
theorem Reassociated.groups_eq (chain : Reassociated e changed) (resolver : Resolver) :
    e.normalize.groups resolver = changed.normalize.groups resolver := by
  -- Both are read row by row, and the rows are the same.
  rw [groups_normalize, groups_normalize, chain.kept Rebracketed.rows_eq]

/--
Association never matters.

Expressions that differ only in the brackets of their chains have the same width, and their normal
forms lead to the same predicate, with groups and statements in the same order, or to the same
failure. So they compile alike wherever the limit on levels admits both.
-/
theorem association_unseen {first second : Expr} (chain : Reassociated first second) :
    first.width = second.width ∧
    (∀ resolver, first.normalize.toPredicate resolver = second.normalize.toPredicate resolver) ∧
    ∀ resolver settings, first.depth ≤ settings.maxDepth → second.depth ≤ settings.maxDepth →
      first.compile resolver settings = second.compile resolver settings := by
  have predicate : ∀ resolver,
      first.normalize.toPredicate resolver = second.normalize.toPredicate resolver := by
    intro resolver
    rw [toPredicate, toPredicate, chain.groups_eq resolver]
  refine ⟨chain.width_eq, predicate, fun resolver settings shallow alsoShallow => ?_⟩
  -- Neither is refused for its levels, and the groups are counted alike.
  rw [compile, compile, if_neg (Nat.not_lt.2 shallow), if_neg (Nat.not_lt.2 alsoShallow),
    chain.width_eq, predicate resolver]

/-- Brackets moved in a conjunction below a choice: a bare attribute in the middle of the chain is
reported all the same. -/
theorem association_unseen_failing :
    Reassociated
      (.or (.and (.and (flag ⟨"a"⟩ true) (.attributeRef ⟨"b"⟩)) (flag ⟨"c"⟩ true))
        (flag ⟨"d"⟩ true))
      (.or (.and (flag ⟨"a"⟩ true) (.and (.attributeRef ⟨"b"⟩) (flag ⟨"c"⟩ true)))
        (flag ⟨"d"⟩ true)) ∧
    (Expr.or (.and (.and (flag ⟨"a"⟩ true) (.attributeRef ⟨"b"⟩)) (flag ⟨"c"⟩ true))
        (flag ⟨"d"⟩ true)).compile .ofNames {} =
      (Expr.or (.and (flag ⟨"a"⟩ true) (.and (.attributeRef ⟨"b"⟩) (flag ⟨"c"⟩ true)))
        (flag ⟨"d"⟩ true)).compile .ofNames {} := by
  -- One step of the chain moves the brackets below the disjunction.
  have step := (Rebracketed.and (flag ⟨"a"⟩ true) (.attributeRef ⟨"b"⟩) (flag ⟨"c"⟩ true)).orLeft
    (flag ⟨"d"⟩ true)
  have chain := Relation.EqvGen.rel _ _ step
  refine ⟨chain, (association_unseen chain).2.2 _ _ ?_ ?_⟩
  · rw [depth_eq_height]
    decide
  · rw [depth_eq_height]
    decide

end Subscription.Expr
