import Subscription.Proofs.Compile.Rows
import Subscription.Proofs.Normal.Disjunctive

/-! What a failure to compile names: the normal form of a leaf or of an operand, which is a part of
the expression as long as its leaves are normal forms already. -/

namespace Subscription

/-- The node that a failure names, by its kind and text. A limit that is exceeded names none. -/
def CompileError.node? : CompileError → Option (NodeKind × String)
  | .unsupportedShape kind expression => some (kind, expression)
  | .unresolvableLeaf kind expression _ => some (kind, expression)
  | .groupLimitExceeded _ _ | .depthLimitExceeded _ _ => none

/-- A failure names a node whose kind and text it gives. -/
def CompileError.Names (failure : CompileError) (node : Expr) : Prop :=
  failure.node? = some (node.kind, node.display)

namespace Expr

variable {resolver : Resolver} {settings : Settings} {e : Expr} {failure : CompileError}

/-- All sub-expressions of a tree, itself first. Operands of comparisons are among them, and so is
what negations wrap. -/
def parts : Expr → List Expr
  | .and left right => .and left right :: (left.parts ++ right.parts)
  | .or left right => .or left right :: (left.parts ++ right.parts)
  | .compare op left right => .compare op left right :: (left.parts ++ right.parts)
  | .not inner => .not inner :: inner.parts
  | .value leaf => [.value leaf]

/-- What a failure to state a node can be about: the node, and the operands if it is a
comparison. -/
def suspects : Expr → List Expr
  | .compare op left right => [.compare op left right, left, right]
  | e => [e]

/-- A tree is a part of itself. -/
theorem self_mem_parts (e : Expr) : e ∈ e.parts := by
  -- A node is listed before its parts.
  cases e <;> simp [parts]

/-- The operands of a comparison are parts of it. -/
theorem suspects_subset_parts (e : Expr) : e.suspects ⊆ e.parts := by
  -- A node that is no comparison suspects itself alone.
  cases e with
  | compare op left right =>
    have first := left.self_mem_parts
    have second := right.self_mem_parts
    simp [suspects, parts, first, second]
  | and _ _ | or _ _ | not _ | value _ => simp [suspects, parts]

/-- The parts of a leaf are parts of the tree that it is a leaf of. -/
theorem parts_subset_of_mem_leaves {leaf : Expr} (member : leaf ∈ e.leaves) :
    leaf.parts ⊆ e.parts := by
  induction e with
  | and left right ihl ihr | or left right ihl ihr =>
    -- A leaf of a connective is a leaf of one of its sides.
    intro part inside
    rcases List.mem_append.1 member with inLeft | inRight
    · simp [parts, ihl inLeft inside]
    · simp [parts, ihr inRight inside]
  | not _ _ | compare _ _ _ _ _ | value _ =>
    cases List.mem_singleton.1 member
    exact List.Subset.refl _

/-- Normalizing a node normalizes what a failure can be about. -/
theorem suspects_normalize (e : Expr) : e.normalize.suspects = e.suspects.map normalize := by
  cases e with
  | and left right =>
    -- What a conjunction becomes is a connective again, and has no operands to compare.
    have noComparison : (Expr.and left right).normalize.kind ≠ .compare :=
      kind_normalize_and_ne (by decide) (by decide) left right
    show (Expr.and left right).normalize.suspects = [(Expr.and left right).normalize]
    cases normal : (Expr.and left right).normalize with
    | compare op l r => exact absurd (congrArg kind normal) noComparison
    | and _ _ | or _ _ | not _ | value _ => rfl
  | or _ _ | not _ | compare _ _ _ | value _ => rfl

/-- What a failure can be about is in normal form where the node is. -/
theorem DisjunctiveNormal.suspects (normal : DisjunctiveNormal e) :
    ∀ part ∈ e.suspects, DisjunctiveNormal part := by
  -- The operands of a comparison in normal form are in normal form themselves.
  cases e with
  | compare op left right =>
    cases normal with
    | compare _ first second =>
      simp [Expr.suspects, first, second, DisjunctiveNormal.compare]
  | and _ _ | or _ _ | not _ | value _ => exact List.forall_mem_singleton.2 normal

/-- A comparison of leaves without a statement is named, unless one of its operands is. -/
theorem leafStatement_names {op : CompareOp} {left right : Value}
    (failed : leafStatement resolver op left right = .error failure) :
    ∃ part ∈ (Expr.compare op (.value left) (.value right)).suspects, failure.Names part := by
  unfold leafStatement at failed
  -- The operands are looked up from left to right, and null is refused only behind them.
  cases onLeft : left.attributeToken resolver with
  | error cause =>
    rw [onLeft] at failed
    cases failed
    exact ⟨.value left, by simp [suspects], rfl⟩
  | ok token =>
    cases onRight : right.literalToken resolver with
    | error cause =>
      rw [onLeft, onRight] at failed
      cases failed
      exact ⟨.value right, by simp [suspects], rfl⟩
    | ok literal =>
      rw [onLeft, onRight] at failed
      refine ⟨.compare op (.value left) (.value right), by simp [suspects], ?_⟩
      cases op <;> cases literal <;> cases failed <;> rfl

/-- A node without a statement is named, unless it is a comparison and one of its operands is. -/
theorem statement_names (failed : e.statement resolver = .error failure) :
    ∃ part ∈ e.suspects, failure.Names part := by
  cases e with
  | compare op left right =>
    cases left with
    | value left =>
      cases right with
      | value right => exact leafStatement_names failed
      | and _ _ | or _ _ | not _ | compare _ _ _ =>
        -- With a leaf on the left, the right operand is at fault.
        cases failed
        exact ⟨_, by simp [suspects], rfl⟩
    | and _ _ | or _ _ | not _ | compare _ _ _ =>
      cases right <;> cases failed <;> exact ⟨_, by simp [suspects], rfl⟩
  | and _ _ | or _ _ | not _ | value _ =>
    cases failed
    exact ⟨_, List.mem_singleton.2 rfl, rfl⟩

/-- Compilation fails in three ways: for its levels, for its groups, or as the reading of groups
does. -/
theorem compile_eq_error_iff :
    e.compile resolver settings = .error failure ↔
      (settings.maxDepth < e.depth ∧ failure = .depthLimitExceeded e.depth settings.maxDepth) ∨
      (e.depth ≤ settings.maxDepth ∧ settings.maxGroups < e.width ∧
        failure = .groupLimitExceeded e.width settings.maxGroups) ∨
      (e.depth ≤ settings.maxDepth ∧ e.width ≤ settings.maxGroups ∧
        e.normalize.groups resolver = .error failure) := by
  -- The checks are made in this order, and each way excludes the other two.
  by_cases shallow : e.depth ≤ settings.maxDepth
  · by_cases narrow : e.width ≤ settings.maxGroups
    · rw [(compile_within shallow narrow).2]
      simp [shallow, narrow, Nat.not_lt.2 shallow, Nat.not_lt.2 narrow]
    · have beyond := Nat.lt_of_not_le narrow
      rw [compile, if_neg (Nat.not_lt.2 shallow), if_pos beyond]
      simp [shallow, narrow, beyond, Nat.not_lt.2 shallow, eq_comm]
  · have beyond := Nat.lt_of_not_le shallow
    rw [compile, if_pos beyond]
    simp [shallow, beyond, eq_comm]

/-- A failure to read groups is that of the first leaf that is not expressible, and names the normal
form of that leaf or of one of its operands. -/
theorem groups_normalize_names (failed : e.normalize.groups resolver = .error failure) :
    ∃ leaf, FirstInexpressible resolver e leaf ∧
      ∃ part ∈ leaf.suspects, failure.Names part.normalize := by
  obtain ⟨leaf, first, unread⟩ := groups_normalize_eq_error_iff.1 failed
  obtain ⟨named, suspect, names⟩ := statement_names unread
  -- What is about the normal form of the leaf is the normal form of what is about the leaf.
  rw [suspects_normalize] at suspect
  obtain ⟨part, inLeaf, rfl⟩ := List.mem_map.1 suspect
  exact ⟨leaf, first, part, inLeaf, names⟩

/-- The first leaf that is not expressible is a leaf. -/
theorem FirstInexpressible.mem_leaves {leaf : Expr} (first : FirstInexpressible resolver e leaf) :
    leaf ∈ e.leaves := by
  -- The rows go through all leaves, and this one stands between those before and behind it.
  obtain ⟨before, after, split, -⟩ := first
  rw [← mem_flatten_rows, split]
  simp

/-- A compilation that fails with the name of a node was within both limits. -/
theorem groups_of_compile_eq_error {node : NodeKind × String}
    (failed : e.compile resolver settings = .error failure) (named : failure.node? = some node) :
    e.normalize.groups resolver = .error failure := by
  -- The two limits fail without naming a node.
  rcases compile_eq_error_iff.1 failed with ⟨-, rfl⟩ | ⟨-, -, rfl⟩ | ⟨-, -, read⟩
  · cases named
  · cases named
  · exact read

/-- A failure that names no node is that of a limit, and depends on the depth and the width only. -/
theorem compile_eq_error_iff_of_limit (limit : failure.node? = none) :
    e.compile resolver settings = .error failure ↔
      (settings.maxDepth < e.depth ∧ failure = .depthLimitExceeded e.depth settings.maxDepth) ∨
      (e.depth ≤ settings.maxDepth ∧ settings.maxGroups < e.width ∧
        failure = .groupLimitExceeded e.width settings.maxGroups) := by
  -- Whatever fails in reading the normal form is about a node, which leaves the limits.
  have unread : ¬ e.normalize.groups resolver = .error failure := by
    intro failed
    obtain ⟨-, -, part, -, names⟩ := groups_normalize_names failed
    rw [CompileError.Names, limit] at names
    cases names
  simp [compile_eq_error_iff, unread]

/--
What a failure to compile names.

It names the normal form of a part of the expression: of the first leaf that is not expressible when
the rows are read one after the other, or of an operand of that leaf.

Where every leaf is a normal form already, it names a part of the expression as it was written.
-/
theorem failure_names_normal_part {node : NodeKind × String}
    (failed : e.compile resolver settings = .error failure) (named : failure.node? = some node) :
    (∃ leaf, FirstInexpressible resolver e leaf ∧ ∃ part ∈ leaf.suspects, part ∈ e.parts ∧
      node = (part.normalize.kind, part.normalize.display)) ∧
    ((∀ leaf ∈ e.leaves, DisjunctiveNormal leaf) →
      ∃ part ∈ e.parts, node = (part.kind, part.display)) := by
  obtain ⟨leaf, first, part, suspect, names⟩ :=
    groups_normalize_names (groups_of_compile_eq_error failed named)
  have inside : part ∈ e.parts :=
    parts_subset_of_mem_leaves first.mem_leaves (suspects_subset_parts leaf suspect)
  have same : node = (part.normalize.kind, part.normalize.display) :=
    Option.some.inj (named.symm.trans names)
  refine ⟨⟨leaf, first, part, suspect, inside, same⟩, fun normal => ⟨part, inside, ?_⟩⟩
  -- The operands of a leaf in normal form are in normal form, so the part is named as it stands.
  rw [same, ((normal leaf first.mem_leaves).suspects part suspect).normalize_eq]

/-- Two attributes conjoined are no value to compare with, and are named as they were written. -/
theorem failure_names_normal_part_operand :
    ∃ part ∈ (Expr.or (.compare .equal (.attributeRef ⟨"a"⟩)
        (.and (.attributeRef ⟨"b"⟩) (.attributeRef ⟨"c"⟩))) (.attributeRef ⟨"d"⟩)).parts,
      (NodeKind.and, "(b && c)") = (part.kind, part.display) := by
  -- Both limits admit the tree, so the failure is that of its operand.
  have failed : (Expr.or (.compare .equal (.attributeRef ⟨"a"⟩)
      (.and (.attributeRef ⟨"b"⟩) (.attributeRef ⟨"c"⟩))) (.attributeRef ⟨"d"⟩)).compile
        .ofNames {} = .error (.unsupportedShape .and "(b && c)") := by
    refine compile_eq_error_iff.2 (.inr (.inr ⟨?_, by decide, rfl⟩))
    rw [depth_eq_height]
    decide
  exact (failure_names_normal_part failed rfl).2 (by decide)

/-- A failure does not always name a part of the expression as it was written: a choice below a
conjunction is named as it was distributed. -/
theorem failure_names_distributed :
    ¬ ∀ (e : Expr) (resolver : Resolver) (settings : Settings) (failure : CompileError)
      (node : NodeKind × String), e.compile resolver settings = .error failure →
        failure.node? = some node → ∃ part ∈ e.parts, node = (part.kind, part.display) := by
  intro written
  have failed : (Expr.compare .equal (.attributeRef ⟨"a"⟩) (.and (.attributeRef ⟨"b"⟩)
      (.or (.attributeRef ⟨"c"⟩) (.attributeRef ⟨"d"⟩)))).compile .ofNames {} =
        .error (.unsupportedShape .or "((b && c) || (b && d))") := by
    refine compile_eq_error_iff.2 (.inr (.inr ⟨?_, by decide, rfl⟩))
    rw [depth_eq_height]
    decide
  -- The only disjunction of the tree has a text of its own.
  obtain ⟨part, member, same⟩ := written _ _ _ _ _ failed rfl
  revert part
  decide

end Expr

end Subscription
