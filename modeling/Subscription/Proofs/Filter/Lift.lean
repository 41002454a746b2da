import Subscription.Proofs.Filter.Meaning

/-! Lifting keeps the meaning of a filter: it never admits more, and no less where a message settles
it. -/

namespace Subscription.Expr

variable {resolver : Resolver} {m : Message}

/-- A message that satisfies the negation of an expression does not satisfy the expression. -/
theorem means_negate_sound (e : Expr) (meant : e.negate.Means resolver m) :
    ¬ e.Means resolver m := by
  -- Connectives are exchanged as they are in logic, so the comparisons decide.
  induction e with
  | and left right ihl ihr =>
    rcases meant with meant | meant
    · exact fun both => ihl meant both.1
    · exact fun both => ihr meant both.2
  | or left right ihl ihr =>
    intro either
    rcases either with holds | holds
    · exact ihl meant.1 holds
    · exact ihr meant.2 holds
  | not inner _ => exact fun denied => denied meant
  | compare op left right _ _ =>
    obtain ⟨op', right', same, opposite⟩ := negate_compare op left right
    rw [same] at meant
    exact opposite.means_sound meant
  | value leaf =>
    cases leaf with
    | attributeRef id => exact (Opposite.truth true).means_sound meant
    | literal _ | schemaType _ | endpointName _ => exact meant

/-- A message that satisfies an expression negated twice satisfies the expression. -/
theorem means_negate_negate_sound (e : Expr) (meant : e.negate.negate.Means resolver m) :
    e.Means resolver m := by
  -- Two negations restore every connective, and every comparison but one.
  induction e with
  | and left right ihl ihr => exact ⟨ihl meant.1, ihr meant.2⟩
  | or left right ihl ihr => exact meant.imp ihl ihr
  | not inner _ => exact means_negate_sound inner meant
  | compare op left right _ _ =>
    rcases negate_negate_compare op left right with same | ⟨b, rfl, rfl, same⟩
    · rwa [same] at meant
    · -- Equality with one truth value is stronger than inequality to the other.
      rw [same] at meant
      obtain ⟨token, literal, tokens, said⟩ := meant
      obtain ⟨rfl, owner⟩ := operandTokens_bool_iff.1 tokens
      exact ⟨token, _, operandTokens_bool_iff.2 ⟨rfl, owner⟩, said.notEqual_other⟩
  | value leaf => cases leaf <;> exact meant

/-- A lifted expression says no less than the expression, and its negation no less than the
opposite. -/
theorem means_lift_sound (e : Expr) :
    (e.lift.Means resolver m → e.Means resolver m) ∧
      (e.lift.negate.Means resolver m → ¬ e.Means resolver m) := by
  -- Under a negation the two halves change places, and the second one meets a double negation.
  induction e with
  | and left right ihl ihr =>
    refine ⟨fun both => ⟨ihl.1 both.1, ihr.1 both.2⟩, fun either both => ?_⟩
    rcases either with denied | denied
    · exact ihl.2 denied both.1
    · exact ihr.2 denied both.2
  | or left right ihl ihr =>
    refine ⟨fun either => either.imp ihl.1 ihr.1, fun both either => ?_⟩
    rcases either with holds | holds
    · exact ihl.2 both.1 holds
    · exact ihr.2 both.2 holds
  | not inner ih =>
    refine ⟨ih.2, fun meant denied => ?_⟩
    exact denied (ih.1 (means_negate_negate_sound inner.lift meant))
  | compare op left right _ _ => exact ⟨id, means_negate_sound (.compare op left right)⟩
  | value leaf =>
    cases leaf with
    | attributeRef id => exact ⟨fun meant => meant, means_negate_sound (flag id true)⟩
    | literal _ | schemaType _ | endpointName _ => exact ⟨id, means_negate_sound (.value _)⟩

/-- A negation is readable when what it negates is. -/
theorem readable_negate (e : Expr) : e.negate.Readable resolver ↔ e.Readable resolver := by
  induction e with
  | and left right ihl ihr | or left right ihl ihr => exact and_congr ihl ihr
  | not inner _ => exact Iff.rfl
  | compare op left right _ _ =>
    obtain ⟨op', right', same, opposite⟩ := negate_compare op left right
    rw [same]
    exact opposite.readable_iff
  | value leaf =>
    -- A bare attribute becomes a comparison, and any other leaf stays unreadable.
    cases leaf with
    | attributeRef id => exact (Opposite.truth true).readable_iff
    | literal _ | schemaType _ | endpointName _ => exact Iff.rfl

/-- A lifted expression is readable when the expression is. -/
theorem readable_lift (e : Expr) : e.lift.Readable resolver ↔ e.Readable resolver := by
  -- A leaf is readable or not as it was, be it lifted or left alone.
  induction e with
  | and left right ihl ihr | or left right ihl ihr => exact and_congr ihl ihr
  | not inner ih => exact (readable_negate inner.lift).trans ih
  | compare _ _ _ _ _ => exact Iff.rfl
  | value leaf => cases leaf <;> exact Iff.rfl

/-- What settles an expression settles every expression that mentions and reads no more. -/
theorem Settles.of_subset {e other : Expr} (settles : Settles resolver m e)
    (mentioned : other.attributes ⊆ e.attributes) (read : other.flags ⊆ e.flags) :
    Settles resolver m other where
  -- Each of the two conditions is about fewer attributes.
  present id member := settles.present id (mentioned member)
  truth id member := settles.truth id (read member)

/-- What settles a connective settles each of its sides. -/
theorem Settles.sides {e left right : Expr} (settles : Settles resolver m e)
    (mentioned : e.attributes = left.attributes ++ right.attributes)
    (read : e.flags = left.flags ++ right.flags) :
    Settles resolver m left ∧ Settles resolver m right := by
  -- Each side mentions and reads a part of what the connective does.
  constructor
  · refine settles.of_subset ?_ ?_
    · rw [mentioned]
      exact List.subset_append_left _ _
    · rw [read]
      exact List.subset_append_left _ _
  · refine settles.of_subset ?_ ?_
    · rw [mentioned]
      exact List.subset_append_right _ _
    · rw [read]
      exact List.subset_append_right _ _

/-- Lifting leaves nothing more to settle. -/
theorem Settles.lift {e : Expr} (settles : Settles resolver m e) : Settles resolver m e.lift := by
  -- It mentions and reads the same attributes.
  refine settles.of_subset ?_ ?_
  · rw [attributes_lift]
    exact List.Subset.refl _
  · rw [flags_lift]
    exact List.Subset.refl _

/-- A message that settles a readable expression satisfies exactly one of it and its negation. -/
theorem means_negate_iff {e : Expr} (readable : e.Readable resolver)
    (settles : Settles resolver m e) : e.negate.Means resolver m ↔ ¬ e.Means resolver m := by
  -- What is settled for a tree is settled for its parts, where both directions hold by induction.
  induction e with
  | and left right ihl ihr =>
    obtain ⟨first, second⟩ := settles.sides rfl rfl
    rw [Means, Classical.not_and_iff_not_or_not, ← ihl readable.1 first, ← ihr readable.2 second]
    exact Iff.rfl
  | or left right ihl ihr =>
    obtain ⟨first, second⟩ := settles.sides rfl rfl
    rw [Means, not_or, ← ihl readable.1 first, ← ihr readable.2 second]
    exact Iff.rfl
  | not inner _ => exact Classical.not_not.symm
  | compare op left right _ _ =>
    obtain ⟨op', right', same, opposite⟩ := negate_compare op left right
    rw [same]
    exact opposite.means_exact readable settles
  | value leaf =>
    cases leaf with
    | attributeRef id =>
      -- A bare attribute has the attributes of its comparison with truth.
      have compared : Settles resolver m (flag id true) := ⟨settles.present, settles.truth⟩
      exact (Opposite.truth true).means_exact readable compared
    | literal _ | schemaType _ | endpointName _ => exact readable.elim

/-- A message that settles a readable expression satisfies it exactly when it satisfies the lifted
one. -/
theorem means_lift_iff {e : Expr} (readable : e.Readable resolver)
    (settles : Settles resolver m e) : e.lift.Means resolver m ↔ e.Means resolver m := by
  induction e with
  | and left right ihl ihr =>
    obtain ⟨first, second⟩ := settles.sides rfl rfl
    exact and_congr (ihl readable.1 first) (ihr readable.2 second)
  | or left right ihl ihr =>
    obtain ⟨first, second⟩ := settles.sides rfl rfl
    exact or_congr (ihl readable.1 first) (ihr readable.2 second)
  | not inner ih =>
    -- The negation is pushed into the lifted operand, which is as readable and as settled.
    have settled : Settles resolver m inner := settles.of_subset (fun _ => id) (fun _ => id)
    have lifted := (readable_lift inner).2 readable
    rw [lift, means_negate_iff lifted settled.lift, ih readable settled]
    exact Iff.rfl
  | compare _ _ _ _ _ => exact Iff.rfl
  | value leaf => cases leaf <;> exact Iff.rfl

end Subscription.Expr
