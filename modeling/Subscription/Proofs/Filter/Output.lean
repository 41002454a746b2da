import Mathlib.Data.List.Forall2
import Subscription.Filter
import Subscription.Proofs.Compile.Rows
import Subscription.Proofs.Compile.Tokens

/-! What a filter compiles to is never empty, and neither are its parts: unless it is the empty one,
no filter is read as one that matches everything. -/

namespace Subscription

namespace Expr

/-- Every row of an expression holds a leaf. -/
theorem ne_nil_of_mem_rows {e : Expr} : ∀ row ∈ e.rows, row ≠ [] := by
  induction e with
  | and left right ihl ihr =>
    intro row member
    -- A joined row is no shorter than its front.
    obtain ⟨front, inFirst, back, -, rfl⟩ := mem_joinRows.1 member
    exact List.append_ne_nil_of_left_ne_nil (ihl front inFirst) back
  | or left right ihl ihr => exact List.forall_mem_append.2 ⟨ihl, ihr⟩
  | not _ _ | compare _ _ _ _ _ | value _ =>
    intro row member
    cases List.mem_singleton.1 member
    exact List.cons_ne_nil _ _

/-- Groups correspond to rows one by one, and the statements of a group to the leaves of its row. -/
theorem forall₂_statement {resolver : Resolver} {e : Expr} {groups : List Group}
    (read : e.normalize.groups resolver = .ok groups) :
    List.Forall₂ (List.Forall₂ fun leaf s => leaf.statement resolver = .ok s) e.rows groups := by
  -- Both levels of lists are compared entry by entry.
  have same := (groups_eq_rows read).symm
  rw [← List.forall₂_eq_eq_eq, List.forall₂_map_left_iff, List.forall₂_map_right_iff] at same
  refine same.imp fun row group rowwise => ?_
  rw [← List.forall₂_eq_eq_eq, List.forall₂_map_left_iff, List.forall₂_map_right_iff] at rowwise
  exact rowwise

/-- Every group was read from a row. -/
theorem exists_row_of_mem {resolver : Resolver} {e : Expr} {groups : List Group}
    (read : e.normalize.groups resolver = .ok groups) {group : Group} (member : group ∈ groups) :
    ∃ row ∈ e.rows, row.map (·.statement resolver) = group.map .ok := by
  -- The statements of all rows, in their order, are the groups.
  have among : group.map .ok ∈ e.rows.map (·.map (·.statement resolver)) := by
    rw [← groups_eq_rows read]
    exact List.mem_map_of_mem member
  exact List.mem_map.1 among

/-- What holds of every statement that a leaf can have holds of every statement of the groups. -/
theorem forall_statements {resolver : Resolver} {e : Expr} {groups : List Group}
    {P : Statement → Prop} (read : e.normalize.groups resolver = .ok groups)
    (each : ∀ (leaf : Expr) (s : Statement), leaf.statement resolver = .ok s → P s) :
    ∀ group ∈ groups, ∀ s ∈ group, P s := by
  -- A statement of a group was read from a leaf of the row that the group was read from.
  intro group inGroups s inGroup
  obtain ⟨row, -, rowwise⟩ := exists_row_of_mem read inGroups
  have member : .ok s ∈ row.map (·.statement resolver) := by
    rw [rowwise]
    exact List.mem_map_of_mem inGroup
  obtain ⟨leaf, -, built⟩ := List.mem_map.1 member
  exact each leaf s built

/-- An expression has groups, and each of them has statements. -/
theorem groups_ne_nil {resolver : Resolver} {e : Expr} {groups : List Group}
    (read : e.normalize.groups resolver = .ok groups) :
    groups ≠ [] ∧ ∀ group ∈ groups, group ≠ [] := by
  constructor
  · -- There are as many groups as rows, and there is a row.
    have positive := e.length_rows_pos
    have count := congrArg List.length (groups_eq_rows read)
    rw [List.length_map, List.length_map] at count
    apply List.ne_nil_of_length_pos
    omega
  · intro group inGroups none
    obtain ⟨row, inRows, rowwise⟩ := exists_row_of_mem read inGroups
    rw [none, List.map_nil, List.map_eq_nil_iff] at rowwise
    exact ne_nil_of_mem_rows row inRows rowwise

end Expr

/-- Only a predicate without groups has no wire form, declared or not. -/
theorem Predicate.toXml?_eq_none_iff {declared : Bool} {p : Predicate} :
    p.toXml? declared = none ↔ p.isEmpty = true := by
  -- The test for groups comes first, whether a declaration is asked for or not.
  rw [toXml?]
  by_cases empty : p.isEmpty = true
  · rw [if_pos empty]
    exact ⟨fun _ => empty, fun _ => rfl⟩
  · rw [if_neg empty]
    exact ⟨nofun, fun none => absurd none empty⟩

namespace Filter

/-- The predicate of a filter has groups exactly when the filter restricts something. -/
theorem isEmpty_eq_of_compile {f : Filter} {resolver : Resolver} {settings : Settings}
    {p : Predicate} (compiled : f.compile resolver settings = .ok p) : p.isEmpty = f.isEmpty := by
  obtain ⟨expr⟩ := f
  cases expr with
  | none =>
    cases compiled
    rfl
  | some e =>
    -- An expression has one row at least, and so a predicate with a group.
    have nonEmpty := (Expr.groups_ne_nil (Expr.compile_eq_ok_iff.1 compiled).2.2).1
    exact List.isEmpty_eq_false_iff.2 nonEmpty

/-- A filter has no wire form exactly when it restricts nothing. -/
theorem toXml_eq_none_iff (f : Filter) (resolver : Resolver) (settings : Settings) :
    f.toXml resolver settings = .ok none ↔ f.isEmpty = true := by
  unfold toXml
  cases compiled : f.compile resolver settings with
  | error cause =>
    -- The empty filter compiles, so a filter that fails is not empty.
    refine ⟨nofun, fun empty => ?_⟩
    rw [isEmpty, Option.isNone_iff_eq_none] at empty
    rw [compile, empty] at compiled
    cases compiled
  | ok p =>
    rw [← isEmpty_eq_of_compile compiled, ← @Predicate.toXml?_eq_none_iff settings.declaration]
    exact ⟨Except.ok.inj, congrArg Except.ok⟩

/--
No filter is taken for one that matches everything.

A filter has no wire form exactly when it is the empty one.

Any other filter that compiles has a group, every group has a statement, every statement names an
attribute and has a value unless it tests presence. Groups correspond to the rows of the expression
and statements to their leaves, and a value is empty exactly where the right operand of its leaf is
an empty text or a variant without a name.
-/
theorem output_wellFormed (f : Filter) (resolver : Resolver) (settings : Settings) :
    (f.toXml resolver settings = .ok none ↔ f.isEmpty = true) ∧
    ∀ e, f.expr = some e → ∀ p, f.compile resolver settings = .ok p →
      p.groups ≠ [] ∧
      (∀ group ∈ p.groups, group ≠ []) ∧
      (∀ group ∈ p.groups, ∀ s ∈ group,
        s.token ≠ "" ∧ (s.value? = none ↔ s.operator = .present)) ∧
      List.Forall₂ (List.Forall₂ fun leaf s => leaf.statement resolver = .ok s ∧
        (s.value? = some "" ↔ ∃ op left right, leaf = .compare op left (.value right) ∧
          (right = .literal (.text "") ∨ ∃ typeName, right = .literal (.enum typeName ""))))
        e.rows p.groups := by
  refine ⟨f.toXml_eq_none_iff resolver settings, fun e holds p compiled => ?_⟩
  rw [compile, holds] at compiled
  have read := (Expr.compile_eq_ok_iff.1 compiled).2.2
  obtain ⟨groups, statements⟩ := Expr.groups_ne_nil read
  refine ⟨groups, statements, ?_, ?_⟩
  · exact Expr.forall_statements read fun leaf s built =>
      ⟨Expr.token_ne_empty_of_statement built, Statement.value?_eq_none_iff⟩
  · -- Each statement stands where its leaf does, and what the leaf says of the value is known.
    exact (Expr.forall₂_statement read).imp fun row group rowwise =>
      rowwise.imp fun leaf s built => ⟨built, Expr.value_eq_empty_iff_of_statement built⟩

/-- A test of presence beside a comparison with an empty text compiles to one group of both, in
which only the comparison has a value. -/
theorem output_wellFormed_blank :
    ∃ p, ((present ⟨"a"⟩).and (compare .equal ⟨"b"⟩ (.literal (.text "")))).compile .ofNames {} =
        .ok p ∧ p.groups = [[.presence "a", .comparison "b" .equal ""]] ∧
      ∀ group ∈ p.groups, ∀ s ∈ group,
        s.token ≠ "" ∧ (s.value? = none ↔ s.operator = .present) := by
  -- Both leaves are expressible, the one with the empty text among them.
  have compiled : ((present ⟨"a"⟩).and (compare .equal ⟨"b"⟩ (.literal (.text "")))).compile
      .ofNames {} = .ok ⟨[[.presence "a", .comparison "b" .equal ""]]⟩ := by
    refine Expr.compile_eq_ok_iff.2 ⟨?_, by decide, rfl⟩
    rw [Expr.depth_eq_height]
    decide
  exact ⟨_, compiled, rfl, ((output_wellFormed _ _ _).2 _ rfl _ compiled).2.2.1⟩

end Filter

end Subscription
