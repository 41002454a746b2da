import Subscription.Proofs.Compile.Rows
import Subscription.Proofs.Filter.Lift

/-! A compiled filter matches no message that the filter as written excludes, and every message that
it admits where the message settles it. -/

namespace Subscription.Expr

variable {resolver : Resolver} {m : Message}

/-- An expression holds of a message exactly when every leaf of one of its rows does. -/
theorem means_iff_rows (e : Expr) :
    e.Means resolver m ↔ ∃ row ∈ e.rows, ∀ leaf ∈ row, leaf.Means resolver m := by
  induction e with
  | or left right ihl ihr =>
    -- A row of the whole is a row of one side.
    simp only [Means, rows, ihl, ihr, List.mem_append, or_and_right, exists_or]
  | and left right ihl ihr =>
    -- A joined row holds when both of its parts do, and the parts are chosen independently.
    rw [Means, ihl, ihr, rows]
    constructor
    · intro both
      obtain ⟨⟨front, inFirst, held⟩, back, inSecond, held'⟩ := both
      have whole : ∀ leaf ∈ front ++ back, leaf.Means resolver m :=
        List.forall_mem_append.2 ⟨held, held'⟩
      exact ⟨front ++ back, mem_joinRows.2 ⟨front, inFirst, back, inSecond, rfl⟩, whole⟩
    · intro joined
      obtain ⟨row, member, held⟩ := joined
      obtain ⟨front, inFirst, back, inSecond, rfl⟩ := mem_joinRows.1 member
      have parts := List.forall_mem_append.1 held
      exact ⟨⟨front, inFirst, parts.1⟩, back, inSecond, parts.2⟩
  | not _ _ | compare _ _ _ _ _ | value _ =>
    simp only [rows, List.mem_singleton, exists_eq_left, forall_eq]

/-- The statement of a leaf holds of the messages that the leaf does. -/
theorem means_iff_holds {leaf : Expr} {s : Statement} (built : leaf.statement resolver = .ok s) :
    leaf.Means resolver m ↔ m.holds s := by
  cases statement_succeeds_iff.1 ⟨s, built⟩ with
  | comparison named nonEmpty resolved sensible =>
    obtain ⟨token, literal, tokened, resolved', shape⟩ := leafStatement_eq_ok_iff.1 built
    obtain ⟨_, same, named', -⟩ := Value.attributeToken_eq_ok_iff.1 tokened
    cases same
    have tokens := OperandTokens.intro named' resolved'
    -- Without a text the operator is inequality, which says what the test of presence does.
    rcases shape with ⟨rfl, rfl, rfl⟩ | ⟨text, rfl, rfl⟩
    · exact tokens.means_iff
    · exact tokens.means_iff

/-- A group read from a row of leaves holds of the messages that all these leaves do. -/
theorem row_means_iff {group : Group} {row : List Expr}
    (read : group.map .ok = row.map (·.statement resolver)) :
    (∀ leaf ∈ row, leaf.Means resolver m) ↔ ∀ s ∈ group, m.holds s := by
  -- Every statement of the group is that of some leaf of the row, and the other way round.
  constructor
  · intro meant s inGroup
    have member : .ok s ∈ row.map (·.statement resolver) := by
      rw [← read]
      exact List.mem_map_of_mem inGroup
    obtain ⟨leaf, inRow, built⟩ := List.mem_map.1 member
    exact (means_iff_holds built).1 (meant leaf inRow)
  · intro held leaf inRow
    have member : leaf.statement resolver ∈ group.map .ok := by
      rw [read]
      exact List.mem_map_of_mem inRow
    obtain ⟨s, inGroup, built⟩ := List.mem_map.1 member
    exact (means_iff_holds built.symm).2 (held s inGroup)

/-- A predicate read from the rows of an expression matches the messages that the expression holds
of. -/
theorem matches_iff_means {e : Expr} {p : Predicate}
    (read : e.normalize.groups resolver = .ok p.groups) : p.Matches m ↔ e.Means resolver m := by
  -- Groups and rows correspond one to one, so a group that holds and a row that holds do too.
  have same := groups_eq_rows read
  rw [means_iff_rows]
  constructor
  · intro matched
    obtain ⟨group, inGroups, held⟩ := matched
    have member : group.map .ok ∈ e.rows.map (·.map (·.statement resolver)) := by
      rw [← same]
      exact List.mem_map_of_mem inGroups
    obtain ⟨row, inRows, rowwise⟩ := List.mem_map.1 member
    exact ⟨row, inRows, (row_means_iff rowwise.symm).2 held⟩
  · intro found
    obtain ⟨row, inRows, meant⟩ := found
    have member : row.map (·.statement resolver) ∈ p.groups.map (·.map .ok) := by
      rw [same]
      exact List.mem_map_of_mem inRows
    obtain ⟨group, inGroups, rowwise⟩ := List.mem_map.1 member
    exact ⟨group, inGroups, (row_means_iff rowwise).1 meant⟩

/-- An expression is readable when every leaf is expressible. -/
theorem readable_of_leaves {e : Expr} (expressible : ∀ leaf ∈ e.leaves, Expressible resolver leaf) :
    e.Readable resolver := by
  -- A leaf that is no comparison is not expressible, so none is met.
  induction e with
  | and left right ihl ihr | or left right ihl ihr =>
    obtain ⟨first, second⟩ := List.forall_mem_append.1 expressible
    exact ⟨ihl first, ihr second⟩
  | not _ _ | value _ => cases expressible _ (.head _)
  | compare op left right _ _ =>
    cases expressible _ (.head _) with
    | comparison named nonEmpty resolved sensible =>
      -- Only null has no text, and it is compared for inequality.
      refine ⟨_, _, .intro named resolved, fun null => .inr (sensible ?_)⟩
      rw [null] at resolved
      exact Value.literalToken_eq_none_iff.1 resolved

/--
What a compiled filter matches.

Every leaf of the filter as written is readable.

A message that the compiled filter matches satisfies the filter as written, whatever attributes it
lacks; a message that has every attribute mentioned, with one of the truth values for those read as
such, is matched exactly when it satisfies the filter.
-/
theorem compile_means {e : Expr} {resolver : Resolver} {settings : Settings} {p : Predicate}
    (compiled : (Filter.ofExpr e).compile resolver settings = .ok p) :
    e.Readable resolver ∧
    ∀ m : Message, (p.Matches m → e.Means resolver m) ∧
      (Settles resolver m e → (p.Matches m ↔ e.Means resolver m)) := by
  have read := (compile_eq_ok_iff.1 compiled).2.2
  -- What was compiled is the lifted expression, which is as readable as the one written.
  have readable : e.Readable resolver :=
    (readable_lift e).1 (readable_of_leaves (groups_normalize_succeeds_iff.1 ⟨_, read⟩))
  refine ⟨readable, fun m => ⟨fun matched => ?_, fun settles => ?_⟩⟩
  · exact (means_lift_sound e).1 ((matches_iff_means read).1 matched)
  · exact (matches_iff_means read).trans (means_lift_iff readable settles)

/-- A negated conjunction of a flag and a comparison compiles to two groups, which match the message
of which every attribute is false exactly when the negation holds of it. -/
theorem compile_means_negated :
    ∃ p, (Filter.ofExpr (.not (.and (.attributeRef ⟨"a"⟩)
        (.compare .lessThan (.attributeRef ⟨"b"⟩) (.literal (.text "x")))))).compile .ofNames {} =
          .ok p ∧ p.groups.length = 2 ∧
      (p.Matches (.uniform "False") ↔ (Expr.not (.and (.attributeRef ⟨"a"⟩)
        (.compare .lessThan (.attributeRef ⟨"b"⟩) (.literal (.text "x"))))).Means .ofNames
          (.uniform "False")) := by
  have compiled : (Filter.ofExpr (.not (.and (.attributeRef ⟨"a"⟩)
      (.compare .lessThan (.attributeRef ⟨"b"⟩) (.literal (.text "x")))))).compile .ofNames {} =
        .ok ⟨[[.comparison "a" .equal "False"], [.comparison "b" .greaterOrEqual "x"]]⟩ := by
    refine compile_eq_ok_iff.2 ⟨?_, by decide, rfl⟩
    rw [depth_eq_height]
    decide
  -- Every attribute is present and false, so the message settles any filter.
  have settles : ∀ e, Settles .ofNames (.uniform "False") e := fun _ =>
    ⟨fun _ _ token _ => presentIn_uniformHolds "False" token, fun _ _ _ _ => .inr rfl⟩
  exact ⟨_, compiled, rfl, ((compile_means compiled).2 _).2 (settles _)⟩

end Subscription.Expr
