import Subscription.Filter
import Subscription.Proofs.Compile.Failure
import Subscription.Proofs.Normal.Width
import Subscription.Proofs.Rows.Unordered

/-! Compilation sees the order of operands in the order of its output only. -/

namespace Subscription.Expr

/-- Expressions that differ in the order of operands, at any number of the conjunctions and
disjunctions that connectives and negations lead to. -/
inductive Exchanged : Expr → Expr → Prop where
  | refl (e : Expr) : Exchanged e e
  | not {a b : Expr} (inner : Exchanged a b) : Exchanged (.not a) (.not b)
  | and {a b c d : Expr} (first : Exchanged a c) (second : Exchanged b d) :
      Exchanged (.and a b) (.and c d)
  | andSwapped {a b c d : Expr} (first : Exchanged a c) (second : Exchanged b d) :
      Exchanged (.and a b) (.and d c)
  | or {a b c d : Expr} (first : Exchanged a c) (second : Exchanged b d) :
      Exchanged (.or a b) (.or c d)
  | orSwapped {a b c d : Expr} (first : Exchanged a c) (second : Exchanged b d) :
      Exchanged (.or a b) (.or d c)

/-- The rows of an expression as statements, in no order. A leaf without a statement stands there
as none. -/
def statementRows (resolver : Resolver) (e : Expr) : Multiset (Multiset (Option Statement)) :=
  unordered (e.rows.map (·.map fun leaf => (leaf.statement resolver).toOption))

section

variable {resolver : Resolver}

/-- A conjunction joins the rows of its operands. -/
theorem statementRows_and (left right : Expr) : (Expr.and left right).statementRows resolver =
    joinUnordered (left.statementRows resolver) (right.statementRows resolver) := by
  -- Leaves are replaced before or after the rows are joined, and their order is forgotten last.
  rw [statementRows, rows, map_joinRows, unordered_joinRows]
  rfl

/-- A disjunction has the rows of both operands. -/
theorem statementRows_or (left right : Expr) : (Expr.or left right).statementRows resolver =
    left.statementRows resolver + right.statementRows resolver := by
  -- The rows of the second operand come behind those of the first.
  rw [statementRows, rows, List.map_append, unordered_append]
  rfl

/-- Where groups are found, they are the rows of statements, and none is missing. -/
theorem statementRows_of_read {e : Expr} {groups : List Group}
    (read : e.normalize.groups resolver = .ok groups) :
    e.statementRows resolver = (unordered groups).map (Multiset.map some) := by
  -- A statement that was read is the answer for its leaf, and all of them were.
  have known := congrArg (List.map (List.map Except.toOption)) (groups_eq_rows read)
  simp only [List.map_map, Function.comp_def] at known
  rw [← unordered_map, statementRows]
  exact congrArg unordered known.symm

end

namespace Exchanged

variable {first second : Expr} {resolver : Resolver} {settings : Settings}

/-- What connectives make of their operands by operations that commute, and a negation of its own,
is the same after an exchange. -/
theorem kept {α : Type} {f : Expr → α} (exchanged : Exchanged first second) (meet join : α → α → α)
    (negation : α → α) (ofAnd : ∀ a b, f (.and a b) = meet (f a) (f b))
    (ofOr : ∀ a b, f (.or a b) = join (f a) (f b)) (ofNot : ∀ a, f (.not a) = negation (f a))
    (meetComm : ∀ x y, meet x y = meet y x) (joinComm : ∀ x y, join x y = join y x) :
    f first = f second := by
  -- The operands are worth the same by induction, so only a node that swaps them needs a law.
  induction exchanged with
  | refl _ => rfl
  | not _ ih => rw [ofNot, ofNot, ih]
  | and _ _ iha ihb => rw [ofAnd, ofAnd, iha, ihb]
  | andSwapped _ _ iha ihb => rw [ofAnd, ofAnd, iha, ihb, meetComm]
  | or _ _ iha ihb => rw [ofOr, ofOr, iha, ihb]
  | orSwapped _ _ iha ihb => rw [ofOr, ofOr, iha, ihb, joinComm]

/-- An exchange leaves the depth as it is. -/
theorem depth_eq (exchanged : Exchanged first second) : first.depth = second.depth := by
  rw [depth_eq_height, depth_eq_height]
  -- Either connective is one level above the higher of its operands.
  exact exchanged.kept (fun x y => 1 + max x y) (fun x y => 1 + max x y) (1 + ·) (fun _ _ => rfl)
    (fun _ _ => rfl) (fun _ => rfl) (fun x y => by omega) (fun x y => by omega)

/-- An exchange leaves the counted width as it is, also where it is cut off. -/
theorem width_eq (exchanged : Exchanged first second) : first.width = second.width := by
  -- The count is the exact width cut off once, and that is a product or a sum.
  rw [width_eq_min, width_eq_min]
  exact congrArg _ (exchanged.kept (· * ·) (· + ·) (fun _ => 1) (fun _ _ => rfl) (fun _ _ => rfl)
    (fun _ => rfl) Nat.mul_comm Nat.add_comm)

/-- An exchange neither makes all leaves expressible nor stops them from being so. -/
theorem expressible_iff (exchanged : Exchanged first second) :
    (∀ leaf ∈ first.leaves, Expressible resolver leaf) ↔
      ∀ leaf ∈ second.leaves, Expressible resolver leaf := by
  -- Connectives need both of their operands, and a negation is never expressible.
  have ofBoth : ∀ a b : Expr, (∀ leaf ∈ a.leaves ++ b.leaves, Expressible resolver leaf) =
      ((∀ leaf ∈ a.leaves, Expressible resolver leaf) ∧
        ∀ leaf ∈ b.leaves, Expressible resolver leaf) :=
    fun _ _ => propext List.forall_mem_append
  have ofNot : ∀ a : Expr, (∀ leaf ∈ (Expr.not a).leaves, Expressible resolver leaf) = False := by
    intro a
    refine eq_false fun all => ?_
    cases all (.not a) (List.mem_singleton.2 rfl)
  have comm : ∀ x y : Prop, (x ∧ y) = (y ∧ x) := fun _ _ => propext and_comm
  exact iff_of_eq (exchanged.kept (f := fun e => ∀ leaf ∈ e.leaves, Expressible resolver leaf)
    And And (fun _ => False) ofBoth ofBoth ofNot comm comm)

/-- An exchange leaves the rows of statements as they are, up to their order. -/
theorem statementRows_eq (exchanged : Exchanged first second) :
    first.statementRows resolver = second.statementRows resolver := by
  -- A conjunction joins the rows of its operands, and a disjunction has those of both.
  exact exchanged.kept joinUnordered (· + ·) (fun _ => {{none}}) statementRows_and statementRows_or
    (fun _ => rfl) joinUnordered_comm add_comm

/-- Groups read from exchanged trees are the same up to the order of groups and of statements. -/
theorem unordered_groups_eq (exchanged : Exchanged first second) {groups others : List Group}
    (read : first.normalize.groups resolver = .ok groups)
    (readOther : second.normalize.groups resolver = .ok others) :
    unordered groups = unordered others := by
  -- Marking every statement as present tells tables apart as well as before.
  have injective : Function.Injective (Multiset.map (Multiset.map
      (some : Statement → Option Statement))) :=
    Multiset.map_injective (Multiset.map_injective (Option.some_injective _))
  apply injective
  rw [← statementRows_of_read read, exchanged.statementRows_eq, statementRows_of_read readOther]

/-- A limit is exceeded by both of two exchanged trees or by neither, with the same failure. -/
theorem error_iff_of_limit (exchanged : Exchanged first second) {failure : CompileError}
    (limit : failure.node? = none) :
    first.compile resolver settings = .error failure ↔
      second.compile resolver settings = .error failure := by
  -- The failure says no more than how deep or how wide the tree is.
  rw [compile_eq_error_iff_of_limit limit, compile_eq_error_iff_of_limit limit,
    exchanged.depth_eq, exchanged.width_eq]

end Exchanged

/--
The order of operands is seen only in the order of the output.

Expressions that differ in it compile under the same hosts and limits, and are refused for their
levels or their groups by the same failure.

Where they compile, the groups of one, put into another order, are those of the other one by one,
each with its statements in some order.
-/
theorem exchange_reorders {first second : Expr} (exchanged : Exchanged first second)
    (resolver : Resolver) (settings : Settings) :
    ((∃ p, first.compile resolver settings = .ok p) ↔
      ∃ q, second.compile resolver settings = .ok q) ∧
    (∀ depth limit, first.compile resolver settings = .error (.depthLimitExceeded depth limit) ↔
      second.compile resolver settings = .error (.depthLimitExceeded depth limit)) ∧
    (∀ count limit, first.compile resolver settings = .error (.groupLimitExceeded count limit) ↔
      second.compile resolver settings = .error (.groupLimitExceeded count limit)) ∧
    ∀ p q, first.compile resolver settings = .ok p → second.compile resolver settings = .ok q →
      ∃ groups, p.groups.Perm groups ∧ List.Forall₂ List.Perm groups q.groups := by
  refine ⟨?_, fun _ _ => exchanged.error_iff_of_limit rfl,
    fun _ _ => exchanged.error_iff_of_limit rfl, fun p q compiled compiled' => ?_⟩
  · -- Neither the limits see a difference, nor the question whether all leaves are expressible.
    rw [compile_succeeds_iff, compile_succeeds_iff, exchanged.depth_eq, exchanged.width_eq,
      exchanged.expressible_iff]
  · obtain ⟨-, -, read⟩ := compile_eq_ok_iff.1 compiled
    obtain ⟨-, -, readOther⟩ := compile_eq_ok_iff.1 compiled'
    exact unordered_eq_iff.1 (exchanged.unordered_groups_eq read readOther)

/-- Operands swapped in a conjunction and in the choice on its right: both compile to two groups,
which come in another order and have their statements the other way round. -/
theorem exchange_reorders_nested :
    Exchanged
      (.and (flag ⟨"a"⟩ true) (.or (flag ⟨"b"⟩ true) (flag ⟨"c"⟩ true)))
      (.and (.or (flag ⟨"c"⟩ true) (flag ⟨"b"⟩ true)) (flag ⟨"a"⟩ true)) ∧
    ∃ p q, (Expr.and (flag ⟨"a"⟩ true) (.or (flag ⟨"b"⟩ true) (flag ⟨"c"⟩ true))).compile
        .ofNames {} = .ok p ∧
      (Expr.and (.or (flag ⟨"c"⟩ true) (flag ⟨"b"⟩ true)) (flag ⟨"a"⟩ true)).compile
        .ofNames {} = .ok q ∧
      p.groups.length = 2 ∧
      ∃ groups, p.groups.Perm groups ∧ List.Forall₂ List.Perm groups q.groups := by
  have exchanged := (Exchanged.refl (flag ⟨"a"⟩ true)).andSwapped
    ((Exchanged.refl (flag ⟨"b"⟩ true)).orSwapped (.refl (flag ⟨"c"⟩ true)))
  have compiled : (Expr.and (flag ⟨"a"⟩ true)
      (.or (flag ⟨"b"⟩ true) (flag ⟨"c"⟩ true))).compile .ofNames {} =
        .ok ⟨[[.comparison "a" .equal "True", .comparison "b" .equal "True"],
          [.comparison "a" .equal "True", .comparison "c" .equal "True"]]⟩ := by
    refine compile_eq_ok_iff.2 ⟨?_, by decide, rfl⟩
    rw [depth_eq_height]
    decide
  -- That the second one compiles as well is part of the theorem.
  obtain ⟨succeeds, -, -, reordered⟩ := exchange_reorders exchanged .ofNames {}
  obtain ⟨q, compiled'⟩ := succeeds.1 ⟨_, compiled⟩
  exact ⟨exchanged, _, q, compiled, compiled', rfl, reordered _ _ compiled compiled'⟩

end Subscription.Expr
