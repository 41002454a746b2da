import Subscription.Proofs.Compile.Statement
import Subscription.Proofs.Depth
import Subscription.Proofs.Normal.Rows
import Subscription.Proofs.Traversal

/-! Compilation reads the rows of an expression in order and fails as the first failing leaf. -/

namespace Subscription.Expr

/-- Conjunctions are flattened, and each conjunct is read as one statement. -/
theorem statements_eq_mapM (resolver : Resolver) (e : Expr) :
    e.statements resolver = e.conjuncts.mapM (·.statement resolver) := by
  -- A traversal of two lists end to end is one traversal after the other.
  induction e with
  | and left right ihl ihr => rw [statements, ihl, ihr, conjuncts, List.mapM_append]
  | or _ _ | not _ | compare _ _ _ | value _ =>
    rw [statements, conjuncts, List.mapM_cons]
    · rfl
    all_goals
      intro _ _ same
      cases same

/-- Disjunctions are flattened, and the rows that a tree shows are read one after the other. -/
theorem groups_eq_mapM (resolver : Resolver) (e : Expr) :
    e.groups resolver = e.flatRows.mapM fun row => row.mapM (·.statement resolver) := by
  unfold flatRows
  rw [List.mapM_map]
  induction e with
  | or left right ihl ihr => rw [groups, ihl, ihr, disjuncts, List.mapM_append]
  | and _ _ | not _ | compare _ _ _ | value _ =>
    rw [groups, disjuncts, List.mapM_cons]
    · -- A single disjunct gives a single group, that of its conjuncts.
      rw [statements_eq_mapM]
      rfl
    all_goals
      intro _ _ same
      cases same

/-- The statement of a leaf as compilation reads it, from the leaf's normal form. -/
def normalStatement (resolver : Resolver) (leaf : Expr) : Except CompileError Statement :=
  leaf.normalize.statement resolver

/-- The groups of a normal form are the rows of the expression, read in order. -/
theorem groups_normalize (resolver : Resolver) (e : Expr) :
    e.normalize.groups resolver = e.rows.mapM fun row => row.mapM (normalStatement resolver) := by
  -- The normal form shows the same rows, each leaf in its own normal form.
  rw [groups_eq_mapM, flatRows_normalize, List.mapM_map]
  congr 1
  funext row
  exact List.mapM_map

/-- An expressible comparison is its own normal form. -/
theorem Expressible.normalize_eq {resolver : Resolver} {e : Expr}
    (expressible : Expressible resolver e) : e.normalize = e := by
  -- Both operands are leaves, which normalization leaves alone.
  cases expressible
  rfl

/-- Normalization neither makes a leaf expressible nor stops it from being so. -/
theorem expressible_normalize_iff {resolver : Resolver} {e : Expr} :
    Expressible resolver e.normalize ↔ Expressible resolver e := by
  constructor
  · -- A comparison of leaves can only come from the same comparison.
    generalize normal : e.normalize = n
    intro expressible
    cases expressible with
    | comparison named nonEmpty resolved sensible =>
      obtain ⟨l, r, rfl, left, right⟩ := normalize_eq_compare normal
      rw [normalize_eq_value_iff.1 left, normalize_eq_value_iff.1 right]
      exact .comparison named nonEmpty resolved sensible
  · intro expressible
    rw [expressible.normalize_eq]
    exact expressible

/-- Compilation finds a statement for a leaf exactly when the leaf is expressible. -/
theorem normalStatement_succeeds_iff {resolver : Resolver} {leaf : Expr} :
    (∃ s, normalStatement resolver leaf = .ok s) ↔ Expressible resolver leaf :=
  -- The statement is that of the normalized leaf, which is expressible as the leaf is.
  statement_succeeds_iff.trans expressible_normalize_iff

/-- Groups are found exactly when every leaf is expressible. -/
theorem groups_normalize_succeeds_iff {resolver : Resolver} {e : Expr} :
    (∃ groups, e.normalize.groups resolver = .ok groups) ↔
      ∀ leaf ∈ e.leaves, Expressible resolver leaf := by
  -- Every leaf stands in some row, so each is read unless one before it fails.
  rw [groups_normalize, mapM_rows_succeeds_iff]
  simp only [normalStatement_succeeds_iff, mem_flatten_rows]

/-- The groups are the rows of the expression, with each leaf replaced by its statement. -/
theorem groups_eq_rows {resolver : Resolver} {e : Expr} {groups : List Group}
    (read : e.normalize.groups resolver = .ok groups) :
    groups.map (·.map .ok) = e.rows.map (·.map (·.statement resolver)) := by
  have expressible := groups_normalize_succeeds_iff.1 ⟨groups, read⟩
  rw [groups_normalize, mapM_rows_eq_ok_iff] at read
  rw [← read]
  -- An expressible leaf is read as it stands.
  refine List.map_congr_left fun row inRows => List.map_congr_left fun leaf inRow => ?_
  have member : leaf ∈ e.leaves := mem_flatten_rows.1 (List.mem_flatten.2 ⟨row, inRows, inRow⟩)
  rw [normalStatement, (expressible leaf member).normalize_eq]

/-- The first leaf that no statement expresses, when the rows are read one after the other. -/
def FirstInexpressible (resolver : Resolver) (e leaf : Expr) : Prop :=
  ∃ before after, e.rows.flatten = before ++ leaf :: after ∧
    (∀ earlier ∈ before, Expressible resolver earlier) ∧ ¬ Expressible resolver leaf

/-- Groups are not found exactly when some leaf fails first, and the failure is that leaf's. -/
theorem groups_normalize_eq_error_iff {resolver : Resolver} {e : Expr} {failure : CompileError} :
    e.normalize.groups resolver = .error failure ↔
      ∃ leaf, FirstInexpressible resolver e leaf ∧
        leaf.normalize.statement resolver = .error failure := by
  rw [groups_normalize, mapM_rows_eq_error_iff]
  simp only [normalStatement_succeeds_iff]
  constructor
  · intro ⟨before, leaf, after, split, earlier, failed⟩
    refine ⟨leaf, ⟨before, after, split, earlier, fun expressible => ?_⟩, failed⟩
    -- A leaf with a failure has no statement as well.
    obtain ⟨s, built⟩ := normalStatement_succeeds_iff.2 expressible
    rw [failed] at built
    cases built
  · intro ⟨leaf, ⟨before, after, split, earlier, _⟩, failed⟩
    exact ⟨before, leaf, after, split, earlier, failed⟩

/-- Within both limits, compilation is nothing but the reading of rows. -/
theorem compile_eq_groups {resolver : Resolver} {settings : Settings} {e : Expr}
    (shallow : e.depth ≤ settings.maxDepth) (narrow : e.width ≤ settings.maxGroups) :
    e.compile resolver settings = (e.normalize.groups resolver).map Predicate.mk := by
  -- Neither check refuses the expression.
  rw [compile, if_neg (Nat.not_lt.2 shallow), if_neg (Nat.not_lt.2 narrow), toPredicate]
  rfl

/-- A compilation that succeeds was within both limits, and its groups were read from the rows. -/
theorem compile_eq_ok_iff {resolver : Resolver} {settings : Settings} {e : Expr} {p : Predicate} :
    e.compile resolver settings = .ok p ↔ e.depth ≤ settings.maxDepth ∧
      e.width ≤ settings.maxGroups ∧ e.normalize.groups resolver = .ok p.groups := by
  by_cases shallow : e.depth ≤ settings.maxDepth
  · by_cases narrow : e.width ≤ settings.maxGroups
    · rw [compile_eq_groups shallow narrow]
      cases e.normalize.groups resolver with
      | error failure => exact ⟨nofun, nofun⟩
      | ok groups =>
        constructor
        · intro same
          cases same
          exact ⟨shallow, narrow, rfl⟩
        · intro ⟨_, _, same⟩
          cases same
          rfl
    · -- Too many groups fail without being read.
      rw [compile, if_neg (Nat.not_lt.2 shallow), if_pos (Nat.lt_of_not_le narrow)]
      exact ⟨nofun, fun held => absurd held.2.1 narrow⟩
  · -- Too many levels fail before groups are counted.
    rw [compile, if_pos (Nat.lt_of_not_le shallow)]
    exact ⟨nofun, fun held => absurd held.1 shallow⟩

/-- Compilation succeeds exactly within both limits and when every leaf is expressible. -/
theorem compile_succeeds_iff {resolver : Resolver} {settings : Settings} {e : Expr} :
    (∃ p, e.compile resolver settings = .ok p) ↔ e.depth ≤ settings.maxDepth ∧
      e.width ≤ settings.maxGroups ∧ ∀ leaf ∈ e.leaves, Expressible resolver leaf := by
  -- Reading the normal form is the only step behind the limits.
  simp only [compile_eq_ok_iff, ← groups_normalize_succeeds_iff]
  constructor
  · intro compiled
    obtain ⟨p, shallow, narrow, read⟩ := compiled
    exact ⟨shallow, narrow, p.groups, read⟩
  · intro within
    obtain ⟨shallow, narrow, groups, read⟩ := within
    exact ⟨⟨groups⟩, shallow, narrow, read⟩

/-- Within both limits, compilation succeeds exactly when groups are found, and fails as they do. -/
theorem compile_within {resolver : Resolver} {settings : Settings} {e : Expr}
    (shallow : e.depth ≤ settings.maxDepth) (narrow : e.width ≤ settings.maxGroups) :
    ((∃ p, e.compile resolver settings = .ok p) ↔
      ∃ groups, e.normalize.groups resolver = .ok groups) ∧
    ∀ failure, e.compile resolver settings = .error failure ↔
      e.normalize.groups resolver = .error failure := by
  rw [compile_eq_groups shallow narrow]
  -- Wrapping the groups as a predicate keeps every failure.
  cases e.normalize.groups resolver with
  | error cause =>
    refine ⟨⟨nofun, nofun⟩, fun failure => ⟨fun same => ?_, fun same => ?_⟩⟩
    · cases same
      rfl
    · cases same
      rfl
  | ok groups =>
    exact ⟨⟨fun _ => ⟨groups, rfl⟩, fun _ => ⟨⟨groups⟩, rfl⟩⟩, fun failure => ⟨nofun, nofun⟩⟩

/--
What compilation returns, on success and on failure.

Too many levels are refused first and too many groups next.

Within both limits it succeeds exactly when every leaf is expressible, its groups are then the rows
of the expression with each leaf replaced by its statement, and otherwise it fails as the first leaf
that is not expressible does when the rows are read one after the other.
-/
theorem compile_exact (resolver : Resolver) (settings : Settings) (e : Expr) :
    (settings.maxDepth < e.depth →
      e.compile resolver settings = .error (.depthLimitExceeded e.depth settings.maxDepth)) ∧
    (e.depth ≤ settings.maxDepth → settings.maxGroups < e.width →
      e.compile resolver settings = .error (.groupLimitExceeded e.width settings.maxGroups)) ∧
    (e.depth ≤ settings.maxDepth → e.width ≤ settings.maxGroups →
      ((∃ p, e.compile resolver settings = .ok p) ↔
        ∀ leaf ∈ e.leaves, Expressible resolver leaf) ∧
      (∀ p, e.compile resolver settings = .ok p →
        p.groups.map (·.map .ok) = e.rows.map (·.map (·.statement resolver))) ∧
      ∀ failure, e.compile resolver settings = .error failure ↔
        ∃ leaf, FirstInexpressible resolver e leaf ∧
          leaf.normalize.statement resolver = .error failure) := by
  -- The checks are made in this order, and what is left is the reading of rows.
  refine ⟨fun deep => ?_, fun shallow wide => ?_, fun shallow narrow => ⟨?_, ?_, ?_⟩⟩
  · rw [compile, if_pos deep]
  · rw [compile, if_neg (Nat.not_lt.2 shallow), if_pos wide]
  · rw [(compile_within shallow narrow).1, groups_normalize_succeeds_iff]
  · intro p compiled
    exact groups_eq_rows (compile_eq_ok_iff.1 compiled).2.2
  · intro failure
    rw [(compile_within shallow narrow).2, groups_normalize_eq_error_iff]

/-- The failure is not that of the leftmost bad leaf: of two bare attributes, the second stands in
the first row and is reported. -/
theorem compile_exact_row_order :
    (Expr.and (.or (.compare .equal (.attributeRef ⟨"a"⟩) (.literal (.text "x")))
        (.attributeRef ⟨"b"⟩)) (.attributeRef ⟨"c"⟩)).compile .ofNames {} =
      .error (.unsupportedShape .value "c") := by
  refine (((compile_exact _ _ _).2.2 ?_ ?_).2.2 _).2
    ⟨.attributeRef ⟨"c"⟩, ⟨[_], [_, _], rfl, ?_, nofun⟩, rfl⟩
  · rw [depth_eq_height]
    decide
  · decide
  · -- Before the second flag stands only the comparison, which has a statement.
    intro earlier member
    cases List.mem_singleton.1 member
    exact .comparison rfl (by decide) rfl nofun

end Subscription.Expr
