import Subscription.Proofs.Compile.Statement

/-! Which operands have an empty text, and which statements could carry one. -/

namespace Subscription

/-- Digits are never left out of a number. -/
theorem Decimal.positional_ne_empty (d : Decimal) : d.positional ≠ "" := by
  -- A whole number has its digits, and any other has at least its point.
  obtain ⟨significand, exponent⟩ := d
  unfold Decimal.positional
  cases exponent with
  | ofNat e => simp [String.ofList_eq_empty_iff, Nat.toDigits_ne_nil]
  | negSucc e => simp [String.ofList_eq_empty_iff]

/-- A float has a text, be it the name of what is no number. -/
theorem Binary64.text_ne_empty (x : Binary64) : x.text ≠ "" := by
  -- Behind the sign of a number, if it has one, stand its digits.
  cases x with
  | nan => decide
  | infinite negative => cases negative <;> decide
  | finite negative rank =>
    rw [text]
    intro empty
    exact (shortestDecimal .up rank).positional_ne_empty (String.append_eq_empty_iff.1 empty).2

/-- An integer has a text. -/
theorem toString_int_ne_empty (n : Int) : toString n ≠ "" := by
  -- A number below zero has at least its sign.
  cases n with
  | ofNat m => exact Nat.repr_ne_empty
  | negSucc m =>
    intro empty
    have sign : "-" = "" := (String.append_eq_empty_iff.1 empty).1
    exact absurd sign (by decide)

/-- An operand whose text is empty because it was written so. -/
def Value.IsBlank (operand : Value) : Prop :=
  operand = .literal (.text "") ∨ ∃ typeName, operand = .literal (.enum typeName "")

/-- Only a constant can be written so. -/
theorem Value.IsBlank.eq_literal {operand : Value} (blank : operand.IsBlank) :
    ∃ constant, operand = .literal constant := by
  -- References are never blank, whatever they refer to.
  rcases blank with same | ⟨typeName, same⟩
  · exact ⟨_, same⟩
  · exact ⟨_, same⟩

/-- The token of a constant is empty only for an empty text or variant. -/
theorem Literal.token?_eq_empty_iff {constant : Literal} :
    constant.token? = some "" ↔ (Value.literal constant).IsBlank := by
  constructor
  · intro empty
    -- Numbers and truth values are never written as nothing, and null has no token.
    cases constant with
    | null => cases empty
    | bool b => cases b <;> exact absurd (Option.some.inj empty) (by decide)
    | int n => exact absurd (Option.some.inj empty) (toString_int_ne_empty _)
    | uint n => exact absurd (Option.some.inj empty) Nat.repr_ne_empty
    | float x => exact absurd (Option.some.inj empty) x.text_ne_empty
    | text s =>
      cases Option.some.inj empty
      exact .inl rfl
    | enum typeName variant =>
      cases Option.some.inj empty
      exact .inr ⟨typeName, rfl⟩
  · intro blank
    rcases blank with same | ⟨typeName, same⟩ <;> cases same <;> rfl

/-- A message type ends with the root element, so it is not empty where that is not. -/
theorem Schema.messageType_ne_empty {schema : Schema} (rooted : schema.rootElement ≠ "") :
    schema.messageType ≠ "" := by
  -- A namespace is only put in front of the root element.
  unfold messageType
  split
  · split
    · exact rooted
    · exact fun empty => rooted (String.append_eq_empty_iff.1 empty).2
  · exact rooted

/-- An operand resolves to an empty text only where it was written so: the host's answers count only
when they are not empty. -/
theorem Value.literalToken_eq_empty_iff {resolver : Resolver} {operand : Value} :
    operand.literalToken resolver = .ok (some "") ↔ operand.IsBlank := by
  constructor
  · intro empty
    -- Every source but a constant is asked of the host, and either fails or answers with some text.
    cases operand with
    | literal constant =>
      rw [literalToken, Except.ok.injEq] at empty
      exact Literal.token?_eq_empty_iff.1 empty
    | attributeRef id => cases empty
    | schemaType id =>
      rw [literalToken] at empty
      split at empty
      · cases empty
      · split at empty
        · cases empty
        · next schema _ rooted =>
          -- A schema without a root element has no type, and any other has one that is not empty.
          have named : schema.rootElement ≠ "" := by simpa using rooted
          exact absurd (Option.some.inj (Except.ok.inj empty)) (Schema.messageType_ne_empty named)
    | endpointName id =>
      rw [literalToken] at empty
      split at empty
      · next name answered =>
        have named := (nonEmpty?_eq_some_iff.1 answered).2
        exact absurd (Option.some.inj (Except.ok.inj empty)) named
      · cases empty
  · intro blank
    obtain ⟨constant, rfl⟩ := blank.eq_literal
    rw [literalToken, Literal.token?_eq_empty_iff.2 blank]

/-- A statement has no value exactly when it tests presence. -/
theorem Statement.value?_eq_none_iff {s : Statement} :
    s.value? = none ↔ s.operator = .present := by
  -- No comparison has the operator of a test of presence.
  cases s with
  | comparison token op value => cases op <;> exact ⟨nofun, nofun⟩
  | presence token => exact ⟨fun _ => rfl, fun _ => rfl⟩

namespace Expr

/-- The statement of a leaf is about an attribute with a token that is not empty. -/
theorem token_ne_empty_of_statement {resolver : Resolver} {leaf : Expr} {s : Statement}
    (built : leaf.statement resolver = .ok s) : s.token ≠ "" := by
  cases statement_succeeds_iff.1 ⟨s, built⟩ with
  | comparison named nonEmpty resolved sensible =>
    obtain ⟨token, literal, tokened, -, shape⟩ := leafStatement_eq_ok_iff.1 built
    obtain ⟨_, -, -, filled⟩ := Value.attributeToken_eq_ok_iff.1 tokened
    -- Either form of statement carries this token.
    rcases shape with ⟨-, -, rfl⟩ | ⟨text, -, rfl⟩
    · exact filled
    · exact filled

/-- The statement of a leaf has an empty value exactly when its right operand was written so. -/
theorem value_eq_empty_iff_of_statement {resolver : Resolver} {leaf : Expr} {s : Statement}
    (built : leaf.statement resolver = .ok s) :
    s.value? = some "" ↔
      ∃ op left operand, leaf = .compare op left (.value operand) ∧ operand.IsBlank := by
  cases statement_succeeds_iff.1 ⟨s, built⟩ with
  | @comparison op id operand _ _ named nonEmpty resolved sensible =>
    obtain ⟨token, literal, -, found, shape⟩ := leafStatement_eq_ok_iff.1 built
    have only : (∃ op' left operand', Expr.compare op (.attributeRef id) (.value operand) =
        .compare op' left (.value operand') ∧ operand'.IsBlank) ↔ operand.IsBlank := by
      constructor
      · intro written
        obtain ⟨_, _, _, same, blank⟩ := written
        cases same
        exact blank
      · exact fun blank => ⟨op, _, operand, rfl, blank⟩
    -- The value is the text that the right operand resolved to, if it has one.
    rw [only, ← @Value.literalToken_eq_empty_iff resolver operand, found]
    rcases shape with ⟨rfl, -, rfl⟩ | ⟨text, rfl, rfl⟩
    · exact ⟨nofun, nofun⟩
    · simp [Statement.value?]

end Expr

end Subscription
