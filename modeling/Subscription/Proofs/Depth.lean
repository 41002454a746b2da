import Subscription.Expr

/-! The depth found with a list of pending nodes is the height of the tree, and a walk that takes
these nodes in any other order ends with it as well. -/

namespace Subscription.Expr

/-- A tree has at least its root. -/
theorem height_pos (e : Expr) : 0 < e.height := by
  -- Every node counts itself.
  cases e <;> simp only [height] <;> omega

/-- The deepest level that pending nodes and their descendants reach. -/
def farthest : List (Expr × Nat) → Nat
  | [] => 0
  | (node, level) :: pending => max (level + node.height - 1) (farthest pending)

/-- Two lists together reach as far as the one that reaches farther. -/
theorem farthest_append (first second : List (Expr × Nat)) :
    farthest (first ++ second) = max (farthest first) (farthest second) := by
  -- Taking the maximum is associative, and no list reaches nowhere.
  induction first with
  | nil => simp only [List.nil_append, farthest, Nat.zero_max]
  | cons head rest ih =>
    obtain ⟨node, level⟩ := head
    simp only [List.cons_append, farthest, ih, Nat.max_assoc]

/-- How far pending nodes reach does not depend on their order. -/
theorem farthest_perm {first second : List (Expr × Nat)} (same : first.Perm second) :
    farthest first = farthest second := by
  -- Any order is reached by exchanging neighbours, and a maximum does not see that.
  induction same with
  | nil => rfl
  | cons head _ ih =>
    obtain ⟨node, level⟩ := head
    simp only [farthest, ih]
  | swap head next rest =>
    obtain ⟨node, level⟩ := head
    obtain ⟨node', level'⟩ := next
    simp only [farthest]
    exact Nat.max_left_comm _ _ _
  | trans _ _ ih ih' => exact ih.trans ih'

/-- A node reaches as far as its own level and its children on the next one. -/
theorem max_farthest_children (node : Expr) (level : Nat) :
    max level (farthest (node.children.map (·, level + 1))) = level + node.height - 1 := by
  -- Each child stands one level lower and is at least one level high.
  cases node with
  | and left right | or left right | compare _ left right =>
    have leftPos := left.height_pos
    have rightPos := right.height_pos
    simp only [children, List.map_cons, List.map_nil, farthest, height]
    omega
  | not inner =>
    have innerPos := inner.height_pos
    simp only [children, List.map_cons, List.map_nil, farthest, height]
    omega
  | value leaf =>
    simp only [children, List.map_nil, farthest, height]
    omega

/-- The nodes of two lists together are those of either. -/
theorem pendingSize_append (first second : List (Expr × Nat)) :
    pendingSize (first ++ second) = pendingSize first + pendingSize second := by
  -- The nodes of the first list are counted one by one.
  induction first with
  | nil => simp only [List.nil_append, pendingSize, Nat.zero_add]
  | cons head rest ih =>
    obtain ⟨node, level⟩ := head
    simp only [List.cons_append, pendingSize, ih, Nat.add_assoc]

/-- The number of nodes still to be visited does not depend on their order. -/
theorem pendingSize_perm {first second : List (Expr × Nat)} (same : first.Perm second) :
    pendingSize first = pendingSize second := by
  -- Exchanged neighbours are two summands that change places.
  induction same with
  | nil => rfl
  | cons head _ ih =>
    obtain ⟨node, level⟩ := head
    simp only [pendingSize, ih]
  | swap head next rest =>
    obtain ⟨node, level⟩ := head
    obtain ⟨node', level'⟩ := next
    simp only [pendingSize]
    exact Nat.add_left_comm _ _ _
  | trans _ _ ih ih' => exact ih.trans ih'

/-- A node is one node more than its children and their descendants. -/
theorem pendingSize_children (node : Expr) (level : Nat) :
    pendingSize (node.children.map (·, level)) + 1 = node.size := by
  -- A node has two children, one or none.
  cases node <;>
    simp only [children, List.map_cons, List.map_nil, pendingSize, size] <;>
    omega

/-- A walk under way: the deepest level seen, and the nodes still to be visited on their levels. -/
structure Walk where
  seen : Nat
  pending : List (Expr × Nat)

/-- The deepest level that a walk has seen or has still to see. -/
def Walk.reach (w : Walk) : Nat :=
  max w.seen (farthest w.pending)

/--
One visit, to any of the pending nodes.

The level of that node is seen, and its children are pending in its place, one level further down.
It is left open where among the pending nodes the visited one stood and where its children are put.
-/
inductive Visit : Walk → Walk → Prop where
  | intro {seen level : Nat} {node : Expr} {pending others later : List (Expr × Nat)}
      (taken : pending.Perm ((node, level) :: others))
      (put : later.Perm (node.children.map (·, level + 1) ++ others)) :
      Visit ⟨seen, pending⟩ ⟨max seen level, later⟩

/-- The node put last may be the one visited, with its children put on top of the others. -/
theorem Visit.top (seen level : Nat) (node : Expr) (others : List (Expr × Nat)) :
    Visit ⟨seen, (node, level) :: others⟩
      ⟨max seen level, node.children.map (·, level + 1) ++ others⟩ :=
  -- The node is taken from the front, and its children are put where it was.
  .intro (.refl _) (.refl _)

variable {u v w : Walk}

/-- A visit does not change how deep the walk will have got in the end. -/
theorem Visit.reach_eq (visit : Visit u v) : v.reach = u.reach := by
  cases visit with
  | @intro seen level node pending others later taken put =>
    -- What the node reaches is its own level, now seen, and what its children reach.
    have whole := max_farthest_children node level
    show max (max seen level) (farthest later) = max seen (farthest pending)
    rw [farthest_perm put, farthest_perm taken, farthest_append, farthest, ← whole]
    simp only [Nat.max_assoc]

/-- After a visit one node less is still to be visited, descendants included. -/
theorem Visit.pendingSize_eq (visit : Visit u v) :
    pendingSize v.pending + 1 = pendingSize u.pending := by
  cases visit with
  | @intro seen level node pending others later taken put =>
    -- The node itself is done with, and its children are the rest of it.
    have whole := pendingSize_children node (level + 1)
    show pendingSize later + 1 = pendingSize pending
    rw [pendingSize_perm put, pendingSize_perm taken, pendingSize_append, pendingSize]
    omega

/-- As long as a node is pending, a visit can be made. -/
theorem exists_visit (unfinished : w.pending ≠ []) : ∃ later, Visit w later := by
  -- The one in front can be taken, among others perhaps.
  obtain ⟨seen, pending⟩ := w
  cases pending with
  | nil => exact absurd rfl unfinished
  | cons head others => exact ⟨_, Visit.top seen head.2 head.1 others⟩

/-- So many visits, one after the other. -/
inductive Visits : Nat → Walk → Walk → Prop where
  | none (w : Walk) : Visits 0 w w
  | next {count : Nat} {u v w : Walk} (visit : Visit u v) (rest : Visits count v w) :
      Visits (count + 1) u w

/-- No number of visits changes how deep the walk will have got in the end. -/
theorem Visits.reach_eq {count : Nat} (visits : Visits count u w) : w.reach = u.reach := by
  -- A single visit does not change it, so neither does any number of them.
  induction visits with
  | none w => rfl
  | next visit _ ih => exact ih.trans visit.reach_eq

/-- Every visit made is one of the nodes that were to be visited. -/
theorem Visits.count_add {count : Nat} (visits : Visits count u w) :
    count + pendingSize w.pending = pendingSize u.pending := by
  -- Each visit takes one node off what is left to visit.
  induction visits with
  | none w => exact Nat.zero_add _
  | next visit _ ih =>
    have less := visit.pendingSize_eq
    omega

/-- The search for the deepest level is a walk that always visits the node on top, and it ends when
every node was visited. -/
theorem visits_deepest (soFar : Nat) (pending : List (Expr × Nat)) :
    Visits (pendingSize pending) ⟨soFar, pending⟩ ⟨deepest soFar pending, []⟩ := by
  -- The induction is along the search, each turn of which is the visit at the top.
  induction soFar, pending using deepest.induct with
  | case1 soFar =>
    rw [deepest]
    exact .none _
  | case2 soFar node level pending ih =>
    have visit := Visit.top soFar level node pending
    rw [deepest, ← visit.pendingSize_eq]
    exact .next visit ih

/-- The search ends with the deepest level that it had seen or that was still pending. -/
theorem deepest_eq_max (soFar : Nat) (pending : List (Expr × Nat)) :
    deepest soFar pending = max soFar (farthest pending) := by
  -- With nothing pending any more, all that the walk reaches was seen.
  have kept := (visits_deepest soFar pending).reach_eq
  rwa [Walk.reach, Walk.reach, farthest, Nat.max_zero] at kept

/-- A walk from the root reaches as deep as the tree is high. -/
theorem reach_root (e : Expr) : (Walk.mk 0 [(e, 1)]).reach = e.height := by
  -- The root alone is pending, on the first level.
  show max 0 (max (1 + e.height - 1) 0) = e.height
  omega

/-- The depth of a tree is the number of nodes on its longest path from the root. -/
theorem depth_eq_height (e : Expr) : e.depth = e.height := by
  -- The search is one walk from the root, and its reach is what it ends with.
  rw [← e.reach_root, Walk.reach, depth, deepest_eq_max]

/--
A walk over a tree ends, and ends with the height, whichever pending node each visit takes.

No walk makes more visits than the tree has nodes. While a node is pending, a visit can be made;
once none is, every node was visited, and the deepest level seen is the height of the tree.

The depth is what one of these walks finds, namely the one that visits the node put last.
-/
theorem depth_any_order (e : Expr) :
    e.depth = e.height ∧ Visits e.size ⟨0, [(e, 1)]⟩ ⟨e.depth, []⟩ ∧
    ∀ count w, Visits count ⟨0, [(e, 1)]⟩ w →
      count ≤ e.size ∧ (w.pending ≠ [] → ∃ later, Visit w later) ∧
      (w.pending = [] → count = e.size ∧ w.seen = e.height) := by
  refine ⟨e.depth_eq_height, visits_deepest 0 [(e, 1)], fun count w visits => ?_⟩
  -- What was visited and what is pending make up the tree, and the two reach as deep as it does.
  have counted : count + pendingSize w.pending = e.size := visits.count_add
  have reached : w.reach = e.height := visits.reach_eq.trans e.reach_root
  refine ⟨by omega, exists_visit, fun finished => ?_⟩
  rw [finished, pendingSize] at counted
  rw [Walk.reach, finished, farthest, Nat.max_zero] at reached
  exact ⟨counted, reached⟩

/-- Level by level and from left to right, where the search takes the second operand first: the
walk ends with the same height. -/
theorem depth_any_order_levelwise :
    ∃ w, Visits 4 ⟨0, [(.and (.not (.literal .null)) (.attributeRef ⟨"a"⟩), 1)]⟩ w ∧
      w.pending = [] ∧
      w.seen = (Expr.and (.not (.literal .null)) (.attributeRef ⟨"a"⟩)).height := by
  have visits :
      Visits 4 ⟨0, [(.and (.not (.literal .null)) (.attributeRef ⟨"a"⟩), 1)]⟩ ⟨3, []⟩ := by
    -- After each of the first two visits, the two nodes that are left change places.
    refine .next (.intro (.refl _) (.swap _ _ _)) ?_
    refine .next (.intro (.refl _) (.swap _ _ _)) ?_
    refine .next (.intro (.refl _) (.refl _)) ?_
    exact .next (.intro (.refl _) (.refl _)) (.none _)
  exact ⟨_, visits, rfl, (((depth_any_order _).2.2 _ _ visits).2.2 rfl).2⟩

end Subscription.Expr
