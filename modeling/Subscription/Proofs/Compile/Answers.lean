import Subscription.Proofs.Catalog
import Subscription.Proofs.Compile.Rows

/-! Compilation asks its host for nothing but the handles that comparisons of the filter name. -/

namespace Subscription

/-- The handle that an operand on the attribute side is looked up by. -/
def Value.attributeHandle? : Value → Option Handle
  | .attributeRef id => some (.attributeToken id)
  | _ => none

/-- The handle that an operand on the literal side is looked up by. -/
def Value.literalHandle? : Value → Option Handle
  | .schemaType id => some (.schema id)
  | .endpointName id => some (.endpointName id)
  | _ => none

variable {first second : Resolver}

/-- The attribute side gets the same token, or fails alike, where the entry of its handle is the
same. -/
theorem Value.attributeToken_congr {operand : Value}
    (same : ∀ handle ∈ operand.attributeHandle?, first.entry? handle = second.entry? handle) :
    operand.attributeToken first = operand.attributeToken second := by
  cases operand with
  | attributeRef id =>
    rw [attributeToken, attributeToken, Resolver.answers_eq.1 id (same _ rfl)]
  | literal _ | schemaType _ | endpointName _ =>
    -- Nothing else is looked up on this side.
    rfl

/-- The literal side gets the same token, or fails alike, where the entry of its handle is the
same. -/
theorem Value.literalToken_congr {operand : Value}
    (same : ∀ handle ∈ operand.literalHandle?, first.entry? handle = second.entry? handle) :
    operand.literalToken first = operand.literalToken second := by
  cases operand with
  | schemaType id =>
    rw [literalToken, literalToken, Resolver.answers_eq.2.1 id (same _ rfl)]
  | endpointName id =>
    rw [literalToken, literalToken, Resolver.answers_eq.2.2 id (same _ rfl)]
  | literal _ | attributeRef _ =>
    -- A constant is its own token, and an attribute is refused without being looked up.
    rfl

namespace Expr

/-- The leaf operand that an expression is, if it is one. -/
def value? : Expr → Option Value
  | .value leaf => some leaf
  | _ => none

theorem value?_eq_some_iff {e : Expr} {leaf : Value} : e.value? = some leaf ↔ e = .value leaf := by
  -- No other node shows a leaf.
  cases e with
  | value _ => simp only [value?, Option.some.injEq, value.injEq]
  | and _ _ | or _ _ | not _ | compare _ _ _ => exact ⟨nofun, nofun⟩

/-- Normalization neither makes an operand a leaf nor changes one that is. -/
@[simp] theorem value?_normalize (e : Expr) : e.normalize.value? = e.value? := by
  -- A normal form is a leaf exactly where the tree is that leaf.
  refine Option.ext fun leaf => ?_
  rw [value?_eq_some_iff, value?_eq_some_iff, normalize_eq_value_iff]

/-- The handles that a comparison names: an attribute on its left, and a schema or an endpoint on
its right. -/
def leafHandles : Expr → List Handle
  | .compare _ left right =>
    (left.value?.bind Value.attributeHandle?).toList ++
      (right.value?.bind Value.literalHandle?).toList
  | _ => []

/-- The handles that the comparisons among the leaves of an expression name. -/
def handles (e : Expr) : List Handle :=
  e.leaves.flatMap leafHandles

/-- The statement of a node, or its failure, is the same for hosts that have the same entries under
the handles of the node. -/
theorem statement_congr {e : Expr}
    (same : ∀ handle ∈ e.leafHandles, first.entry? handle = second.entry? handle) :
    e.statement first = e.statement second := by
  cases e with
  | compare op left right =>
    obtain ⟨onLeft, onRight⟩ := List.forall_mem_append.1 same
    cases left with
    | value left =>
      cases right with
      | value right =>
        -- Only here is the host asked, and once for each side.
        have tokens : left.attributeToken first = left.attributeToken second :=
          Value.attributeToken_congr fun handle named => onLeft handle (Option.mem_toList.2 named)
        have literals : right.literalToken first = right.literalToken second :=
          Value.literalToken_congr fun handle named => onRight handle (Option.mem_toList.2 named)
        rw [statement, statement, leafStatement, leafStatement, tokens, literals]
      | and _ _ | or _ _ | not _ | compare _ _ _ => rfl
    | and _ _ | or _ _ | not _ | compare _ _ _ => cases right <;> rfl
  | and _ _ | or _ _ | not _ | value _ => rfl

/-- Nodes other than comparisons name no handle. -/
theorem leafHandles_eq_nil {e : Expr} (other : e.kind ≠ .compare) : e.leafHandles = [] := by
  -- Only the operands of a comparison are looked at.
  cases e with
  | compare _ _ _ => exact absurd rfl other
  | and _ _ | or _ _ | not _ | value _ => rfl

/-- Normalization leaves the handles of a comparison as they are, and other nodes have none. -/
@[simp] theorem leafHandles_normalize (e : Expr) : e.normalize.leafHandles = e.leafHandles := by
  cases e with
  | compare op left right => simp only [normalize, leafHandles, value?_normalize]
  | and left right =>
    -- A conjunction is distributed, and what that gives is no comparison either.
    exact leafHandles_eq_nil (kind_normalize_and_ne (by decide) (by decide) left right)
  | or _ _ | not _ | value _ => rfl

/-- Hosts with the same entries under the handles of an expression lead to the same groups, or to
the same failure. -/
theorem groups_congr {e : Expr}
    (same : ∀ handle ∈ e.handles, first.entry? handle = second.entry? handle) :
    e.normalize.groups first = e.normalize.groups second := by
  rw [groups_normalize, groups_normalize]
  -- The same rows are read, and each of their leaves alike.
  refine mapM_rows_congr fun leaf inRows => statement_congr fun handle named => ?_
  rw [leafHandles_normalize] at named
  exact same handle (List.mem_flatMap.2 ⟨leaf, mem_flatten_rows.1 inRows, named⟩)

/-- Compilation has the same result for hosts with the same entries under the handles of the
expression. -/
theorem compile_congr {e : Expr} (settings : Settings)
    (same : ∀ handle ∈ e.handles, first.entry? handle = second.entry? handle) :
    e.compile first settings = e.compile second settings := by
  -- The limits are checked without the host.
  rw [compile, compile, toPredicate, toPredicate, groups_congr same]

/-- Writes that leave the handles of an expression alone change no result, whatever catalog they
extend. -/
theorem compile_foldl_write {e : Expr} (c : Catalog) (settings : Settings) {more : List Entry}
    (apart : ∀ entry ∈ more, entry.handle ∉ e.handles) :
    e.compile (more.foldl Catalog.write c).resolver settings = e.compile c.resolver settings := by
  refine compile_congr settings fun handle used => ?_
  -- A handle in use was not written to, so it has what it had before.
  have untouched : lastWrite? more handle = none := by
    refine lastWrite?_eq_none_iff.2 fun entry member here => ?_
    rw [← here] at used
    exact apart entry member used
  rw [Catalog.entry?_foldl_write, untouched, Option.none_or]

/--
Compilation depends on a catalog only through the entries that the filter uses.

Catalogs whose last writes under the handles of the expression are the same give the same result,
be it a predicate or a failure, whatever else was written to either.

So it is enough that both have the same writes to those handles in the same order, with any others
among them, and later writes that leave those handles alone change no result.
-/
theorem compile_eq_of_lastWrites (e : Expr) (settings : Settings) :
    (∀ writes others : List Entry,
      (∀ handle ∈ e.handles, lastWrite? writes handle = lastWrite? others handle) →
        e.compile (Catalog.ofWrites writes).resolver settings =
          e.compile (Catalog.ofWrites others).resolver settings) ∧
    (∀ writes others : List Entry,
      writes.filter (·.handle ∈ e.handles) = others.filter (·.handle ∈ e.handles) →
        e.compile (Catalog.ofWrites writes).resolver settings =
          e.compile (Catalog.ofWrites others).resolver settings) ∧
    ∀ (c : Catalog) (more : List Entry), (∀ entry ∈ more, entry.handle ∉ e.handles) →
      e.compile (more.foldl Catalog.write c).resolver settings = e.compile c.resolver settings := by
  have byLast : ∀ writes others : List Entry,
      (∀ handle ∈ e.handles, lastWrite? writes handle = lastWrite? others handle) →
        e.compile (Catalog.ofWrites writes).resolver settings =
          e.compile (Catalog.ofWrites others).resolver settings := by
    intro writes others same
    refine compile_congr settings fun handle used => ?_
    -- Either catalog has its last write under the handle, and nothing else.
    simp only [Catalog.entry?_ofWrites, same handle used]
  refine ⟨byLast, fun writes others same => ?_, fun c more => compile_foldl_write c settings⟩
  -- The last write to a handle in use is among the writes that both have.
  refine byLast writes others fun handle used => ?_
  rw [← lastWrite?_filter used writes, same, lastWrite?_filter used others]

/-- One name in all three tables: the attribute written over and the order of tables do not matter,
and what the filter compiles to outlasts a later endpoint of the same name. -/
theorem compile_eq_of_lastWrites_shared :
    (∀ handle ∈ (compare .equal (.attributeRef ⟨"a"⟩) (.value (.schemaType ⟨"a"⟩))).handles,
      lastWrite? [.attributeToken ⟨"a"⟩ "old", .schema ⟨"a"⟩ ⟨none, "Root"⟩,
          .attributeToken ⟨"a"⟩ "new"] handle =
        lastWrite? [.attributeToken ⟨"a"⟩ "new", .schema ⟨"a"⟩ ⟨none, "Root"⟩] handle) ∧
    (compare .equal (.attributeRef ⟨"a"⟩) (.value (.schemaType ⟨"a"⟩))).compile
        (Catalog.ofWrites [.attributeToken ⟨"a"⟩ "old", .schema ⟨"a"⟩ ⟨none, "Root"⟩,
          .attributeToken ⟨"a"⟩ "new"]).resolver {} =
      (compare .equal (.attributeRef ⟨"a"⟩) (.value (.schemaType ⟨"a"⟩))).compile
        (Catalog.ofWrites [.attributeToken ⟨"a"⟩ "new",
          .schema ⟨"a"⟩ ⟨none, "Root"⟩]).resolver {} ∧
    (compare .equal (.attributeRef ⟨"a"⟩) (.value (.schemaType ⟨"a"⟩))).compile
        ([Entry.endpointName ⟨"a"⟩ "Port"].foldl Catalog.write
          (Catalog.ofWrites [.attributeToken ⟨"a"⟩ "new",
            .schema ⟨"a"⟩ ⟨none, "Root"⟩])).resolver {} =
      .ok ⟨[[.comparison "new" .equal "Root"]]⟩ := by
  refine ⟨by decide, (compile_eq_of_lastWrites _ _).1 _ _ (by decide), ?_⟩
  -- The later endpoint is no write to a handle of the filter, so it is left out.
  rw [(compile_eq_of_lastWrites _ _).2.2 _ _ (by decide)]
  refine compile_eq_ok_iff.2 ⟨?_, by decide, rfl⟩
  rw [depth_eq_height]
  decide

end Expr

end Subscription
