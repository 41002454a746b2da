import Subscription.Filter
import Subscription.Proofs.Compile.Rows
import Subscription.Proofs.Normal.Width

/-! Combined filters compile from what both of them compile to, within limits that bound them
together. -/

namespace Subscription

namespace Expr

variable {resolver : Resolver} {settings : Settings} {a b : Expr}

/-- A counted width is positive, and never more than the largest count. -/
theorem width_bounds (e : Expr) : 0 < e.width ∧ e.width ≤ largestCount := by
  -- It is cut off from an exact width, and one group is there in any case.
  have positive := e.exactWidth_pos
  have room : 0 < largestCount := by decide
  rw [width_eq_min]
  omega

/-- A choice has the groups of its first side and then those of its second. -/
theorem groups_or_eq_ok_iff {table : List Group} :
    (Expr.or a b).normalize.groups resolver = .ok table ↔
      ∃ first second, a.normalize.groups resolver = .ok first ∧
        b.normalize.groups resolver = .ok second ∧ table = first ++ second := by
  rw [normalize, groups]
  -- The second side is read only where the first one has groups.
  constructor
  · intro read
    cases readFirst : a.normalize.groups resolver with
    | error cause =>
      rw [readFirst] at read
      cases read
    | ok first =>
      cases readSecond : b.normalize.groups resolver with
      | error cause =>
        rw [readFirst, readSecond] at read
        cases read
      | ok second =>
        rw [readFirst, readSecond] at read
        exact ⟨first, second, rfl, rfl, (Except.ok.inj read).symm⟩
  · intro parts
    obtain ⟨first, second, readFirst, readSecond, rfl⟩ := parts
    rw [readFirst, readSecond]
    rfl

/-- Where both sides of a conjunction have groups, its groups join one of each. -/
theorem groups_and_of_ok {first second : List Group}
    (readFirst : a.normalize.groups resolver = .ok first)
    (readSecond : b.normalize.groups resolver = .ok second) :
    (Expr.and a b).normalize.groups resolver = .ok (joinRows first second) := by
  rw [groups_normalize, mapM_rows_eq_ok_iff] at readFirst readSecond ⊢
  -- Reading commutes with joining, because both replace entries one by one.
  rw [rows, map_joinRows, readFirst, readSecond, map_joinRows]

/-- A conjunction has groups exactly when both sides have, and they join one of each. -/
theorem groups_and_eq_ok_iff {table : List Group} :
    (Expr.and a b).normalize.groups resolver = .ok table ↔
      ∃ first second, a.normalize.groups resolver = .ok first ∧
        b.normalize.groups resolver = .ok second ∧ table = joinRows first second := by
  constructor
  · intro read
    -- Every leaf of either side is a leaf of the whole, so neither side fails.
    have expressible := groups_normalize_succeeds_iff.1 ⟨table, read⟩
    obtain ⟨inFirst, inSecond⟩ := List.forall_mem_append.1 expressible
    obtain ⟨first, readFirst⟩ := groups_normalize_succeeds_iff.2 inFirst
    obtain ⟨second, readSecond⟩ := groups_normalize_succeeds_iff.2 inSecond
    rw [groups_and_of_ok readFirst readSecond] at read
    exact ⟨first, second, readFirst, readSecond, (Except.ok.inj read).symm⟩
  · intro parts
    obtain ⟨first, second, readFirst, readSecond, rfl⟩ := parts
    exact groups_and_of_ok readFirst readSecond

/-- An expression one level above two others, no narrower than either and with groups made of
theirs, compiles exactly when both do and its own limits hold. -/
theorem compile_made_of {e : Expr} {made : List Group → List Group → List Group}
    (levels : e.height = 1 + max a.height b.height)
    (wider : a.width ≤ e.width ∧ b.width ≤ e.width)
    (groups : ∀ table, e.normalize.groups resolver = .ok table ↔
      ∃ first second, a.normalize.groups resolver = .ok first ∧
        b.normalize.groups resolver = .ok second ∧ table = made first second) (r : Predicate) :
    e.compile resolver settings = .ok r ↔
      ∃ p q, a.compile resolver settings = .ok p ∧ b.compile resolver settings = .ok q ∧
        1 + max a.depth b.depth ≤ settings.maxDepth ∧ e.width ≤ settings.maxGroups ∧
        r.groups = made p.groups q.groups := by
  simp only [compile_eq_ok_iff, groups, depth_eq_height, levels]
  constructor
  · intro whole
    obtain ⟨shallow, narrow, first, second, readFirst, readSecond, same⟩ := whole
    -- The limits of the whole leave room for either part.
    have left : a.height ≤ settings.maxDepth := by omega
    have right : b.height ≤ settings.maxDepth := by omega
    exact ⟨⟨first⟩, ⟨second⟩, ⟨left, Nat.le_trans wider.1 narrow, readFirst⟩,
      ⟨right, Nat.le_trans wider.2 narrow, readSecond⟩, shallow, narrow, same⟩
  · intro parts
    obtain ⟨p, q, ⟨-, -, readFirst⟩, ⟨-, -, readSecond⟩, shallow, narrow, same⟩ := parts
    exact ⟨shallow, narrow, p.groups, q.groups, readFirst, readSecond, same⟩

/-- A choice compiles exactly when both sides do and its own limits hold. -/
theorem compile_or_eq_ok_iff (r : Predicate) :
    (Expr.or a b).compile resolver settings = .ok r ↔
      ∃ p q, a.compile resolver settings = .ok p ∧ b.compile resolver settings = .ok q ∧
        1 + max a.depth b.depth ≤ settings.maxDepth ∧
        min largestCount (a.width + b.width) ≤ settings.maxGroups ∧
        r.groups = p.groups ++ q.groups := by
  refine compile_made_of rfl ?_ (fun _ => groups_or_eq_ok_iff) r
  -- A sum that is cut off still reaches either summand.
  obtain ⟨-, left⟩ := a.width_bounds
  obtain ⟨-, right⟩ := b.width_bounds
  rw [width]
  omega

/-- A conjunction compiles exactly when both sides do and its own limits hold. -/
theorem compile_and_eq_ok_iff (r : Predicate) :
    (Expr.and a b).compile resolver settings = .ok r ↔
      ∃ p q, a.compile resolver settings = .ok p ∧ b.compile resolver settings = .ok q ∧
        1 + max a.depth b.depth ≤ settings.maxDepth ∧
        min largestCount (a.width * b.width) ≤ settings.maxGroups ∧
        r.groups = joinRows p.groups q.groups := by
  refine compile_made_of rfl ?_ (fun _ => groups_and_eq_ok_iff) r
  -- A product of positive factors that is cut off still reaches either factor.
  obtain ⟨leftPos, left⟩ := a.width_bounds
  obtain ⟨rightPos, right⟩ := b.width_bounds
  exact ⟨Nat.le_min.2 ⟨left, Nat.le_mul_of_pos_right _ rightPos⟩,
    Nat.le_min.2 ⟨right, Nat.le_mul_of_pos_left _ leftPos⟩⟩

end Expr

namespace Filter

/-- A filter of an expression compiles as the expression does. -/
theorem compile_eq_of_expr {f : Filter} {e : Expr} (holds : f.expr = some e) (resolver : Resolver)
    (settings : Settings) : f.compile resolver settings = e.compile resolver settings := by
  -- Only the empty filter is compiled in another way.
  rw [compile, holds]

/-- Beside an empty filter, a connective leaves the other filter as it is. -/
theorem combine_of_isEmpty {connective : Expr → Expr → Expr} {f g : Filter} :
    (f.isEmpty = true → combine connective f g = g) ∧
      (g.isEmpty = true → combine connective f g = f) := by
  -- Two expressions are the only case in which something is combined.
  obtain ⟨first⟩ := f
  obtain ⟨second⟩ := g
  cases first <;> cases second <;> simp [isEmpty, combine]

/--
Combining filters is compositional.

Of two filters that restrict something, either combination compiles exactly when both compile, one
level more than the deeper of them is allowed, and so is the sum or the product of their widths, cut
off at the largest count. A choice then has the groups of the first filter and those of the second,
and a conjunction has each group of the first in front of each group of the second.

Beside a filter that restricts nothing, both combinations compile as the other filter does.
-/
theorem combination_compiles (f g : Filter) (resolver : Resolver) (settings : Settings) :
    (∀ a b, f.expr = some a → g.expr = some b → ∀ r,
      ((f.or g).compile resolver settings = .ok r ↔
        ∃ p q, f.compile resolver settings = .ok p ∧ g.compile resolver settings = .ok q ∧
          1 + max a.depth b.depth ≤ settings.maxDepth ∧
          min Expr.largestCount (a.width + b.width) ≤ settings.maxGroups ∧
          r.groups = p.groups ++ q.groups) ∧
      ((f.and g).compile resolver settings = .ok r ↔
        ∃ p q, f.compile resolver settings = .ok p ∧ g.compile resolver settings = .ok q ∧
          1 + max a.depth b.depth ≤ settings.maxDepth ∧
          min Expr.largestCount (a.width * b.width) ≤ settings.maxGroups ∧
          r.groups = p.groups.flatMap fun front => q.groups.map fun back => front ++ back)) ∧
    (f.isEmpty = true → (f.or g).compile resolver settings = g.compile resolver settings ∧
      (f.and g).compile resolver settings = g.compile resolver settings) ∧
    (g.isEmpty = true → (f.or g).compile resolver settings = f.compile resolver settings ∧
      (f.and g).compile resolver settings = f.compile resolver settings) := by
  refine ⟨fun a b first second r => ?_, fun empty => ?_, fun empty => ?_⟩
  · -- Neither filter is empty, so the connective stands over both expressions.
    have choice : (f.or g).expr = some (.or a b) := by rw [Filter.or, combine, first, second]
    have both : (f.and g).expr = some (.and a b) := by rw [Filter.and, combine, first, second]
    simp only [compile_eq_of_expr first, compile_eq_of_expr second, compile_eq_of_expr choice,
      compile_eq_of_expr both]
    exact ⟨Expr.compile_or_eq_ok_iff r, Expr.compile_and_eq_ok_iff r⟩
  · rw [Filter.or, Filter.and, combine_of_isEmpty.1 empty, combine_of_isEmpty.1 empty]
    exact ⟨rfl, rfl⟩
  · rw [Filter.or, Filter.and, combine_of_isEmpty.2 empty, combine_of_isEmpty.2 empty]
    exact ⟨rfl, rfl⟩

/-- A choice of two flags and a third one beside it: each group of the choice is continued by the
third flag, and the empty filter changes nothing on either side. -/
theorem combination_compiles_choice :
    (((flag ⟨"a"⟩).or (flag ⟨"b"⟩)).and (flag ⟨"c"⟩)).compile .ofNames {} =
        .ok ⟨[[.comparison "a" .equal "True", .comparison "c" .equal "True"],
          [.comparison "b" .equal "True", .comparison "c" .equal "True"]]⟩ ∧
      (empty.and (flag ⟨"c"⟩)).compile .ofNames {} = (flag ⟨"c"⟩).compile .ofNames {} ∧
      ((flag ⟨"c"⟩).or empty).compile .ofNames {} = (flag ⟨"c"⟩).compile .ofNames {} := by
  have choice : ((flag ⟨"a"⟩).or (flag ⟨"b"⟩)).compile .ofNames {} =
      .ok ⟨[[.comparison "a" .equal "True"], [.comparison "b" .equal "True"]]⟩ := by
    refine Expr.compile_eq_ok_iff.2 ⟨?_, by decide, rfl⟩
    rw [Expr.depth_eq_height]
    decide
  have third : (flag ⟨"c"⟩).compile .ofNames {} = .ok ⟨[[.comparison "c" .equal "True"]]⟩ := by
    refine Expr.compile_eq_ok_iff.2 ⟨?_, by decide, rfl⟩
    rw [Expr.depth_eq_height]
    decide
  -- The two results are joined as the filters are, and the empty filter is dropped on either side.
  refine ⟨?_, ?_, ?_⟩
  · refine ((combination_compiles _ _ _ _).1 _ _ rfl rfl _).2.2
      ⟨_, _, choice, third, ?_, by decide, rfl⟩
    rw [Expr.depth_eq_height, Expr.depth_eq_height]
    decide
  · exact ((combination_compiles _ _ _ _).2.1 rfl).2
  · exact ((combination_compiles _ _ _ _).2.2 rfl).1

end Filter

end Subscription
