import Mathlib.Data.Multiset.Bind
import Mathlib.Data.List.Perm.Basic
import Subscription.Proofs.Rows

/-! Tables of rows up to order: neither the order of the rows nor the order in a row counts, and how
often each of them stands there does. -/

namespace Subscription

variable {α β : Type}

/-- The rows of a table without their order, and each row without its own. -/
def unordered (rows : List (List α)) : Multiset (Multiset α) :=
  .ofList (rows.map .ofList)

theorem unordered_cons (row : List α) (rows : List (List α)) :
    unordered (row :: rows) = .ofList row ::ₘ unordered rows := rfl

/-- The rows of a table put together from two are the rows of both. -/
theorem unordered_append (first second : List (List α)) :
    unordered (first ++ second) = unordered first + unordered second := by
  -- Rows are counted together, wherever they come from.
  simp only [unordered, List.map_append, Multiset.coe_add]

/-- Entries are replaced before or after the order is forgotten, to the same effect. -/
theorem unordered_map (f : α → β) (rows : List (List α)) :
    unordered (rows.map (·.map f)) = (unordered rows).map (Multiset.map f) := by
  simp only [unordered, Multiset.map_coe, List.map_map]
  -- Row by row this is what replacing the entries of a list without order means.
  rfl

/-- Each row of the first table added to each row of the second. -/
def joinUnordered (first second : Multiset (Multiset α)) : Multiset (Multiset α) :=
  first.bind fun front => second.map fun back => front + back

/-- Which of two tables comes first is not seen in what they are joined to. -/
theorem joinUnordered_comm (first second : Multiset (Multiset α)) :
    joinUnordered first second = joinUnordered second first := by
  rw [joinUnordered, Multiset.bind_map_comm, joinUnordered]
  -- Every pair is met on both sides, with its two rows added in one order or the other.
  simp only [add_comm]

/-- Rows are joined before or after the order is forgotten, to the same effect. -/
theorem unordered_joinRows (first second : List (List α)) :
    unordered (joinRows first second) = joinUnordered (unordered first) (unordered second) := by
  induction first with
  | nil => rfl
  | cons row first ih =>
    -- The first row is added to the whole of the second table, and the rest follows by induction.
    have headRows : unordered (second.map (row ++ ·)) =
        (unordered second).map (Multiset.ofList row + ·) := by
      simp only [unordered, Multiset.map_coe, List.map_map]
      rfl
    rw [joinRows_cons, unordered_append, headRows, ih, unordered_cons, joinUnordered,
      joinUnordered, Multiset.cons_bind]

/-- Two tables have the same rows one by one, but for the order in each, exactly when every row is a
permutation of the one that it corresponds to. -/
theorem map_ofList_eq_iff {first second : List (List α)} :
    first.map Multiset.ofList = second.map Multiset.ofList ↔
      List.Forall₂ List.Perm first second := by
  -- Tables of the same length are compared row by row.
  rw [← List.forall₂_eq_eq_eq, List.forall₂_map_left_iff, List.forall₂_map_right_iff]
  simp only [Multiset.coe_eq_coe]

/-- Tables are the same up to order exactly when the rows of one, put into another order, are those
of the other one by one, each with its entries in some order. -/
theorem unordered_eq_iff {first second : List (List α)} :
    unordered first = unordered second ↔
      ∃ rows, first.Perm rows ∧ List.Forall₂ List.Perm rows second := by
  constructor
  · intro same
    -- The rows without order are put into the order of the second table, and carry the rows along.
    have beside : List.Forall₂ (Multiset.ofList · = ·) first (first.map Multiset.ofList) :=
      List.forall₂_map_right_iff.2 (List.forall₂_same.2 fun _ _ => rfl)
    have across : Relation.Comp (List.Forall₂ (Multiset.ofList · = ·)) List.Perm first
        (second.map Multiset.ofList) := ⟨_, beside, Multiset.coe_eq_coe.1 same⟩
    rw [List.forall₂_comp_perm_eq_perm_comp_forall₂] at across
    obtain ⟨rows, reordered, rowwise⟩ := across
    rw [List.forall₂_map_right_iff] at rowwise
    exact ⟨rows, reordered, rowwise.imp fun _ _ => Multiset.coe_eq_coe.1⟩
  · intro found
    obtain ⟨rows, reordered, rowwise⟩ := found
    rw [unordered, unordered, Multiset.coe_eq_coe, ← map_ofList_eq_iff.2 rowwise]
    exact reordered.map _

end Subscription
