import Subscription.Compile

/-! Which leaves a statement expresses, and what the statement then is. -/

namespace Subscription

/-- A host whose attributes go by their own names, and that has nothing else. -/
def Resolver.ofNames : Resolver where
  attributeToken id := some id.name
  schema _ := none
  endpointName _ := none

/-- An answer counts only when it is there and not empty. -/
theorem nonEmpty?_eq_some_iff {answer : Option String} {text : String} :
    nonEmpty? answer = some text ↔ answer = some text ∧ text ≠ "" := by
  -- An empty answer is filtered out.
  rw [nonEmpty?, Option.filter_eq_some_iff]
  simp only [Bool.not_eq_true', String.isEmpty_eq_false_iff]

/-- Only an attribute with a token that is not empty can stand on the attribute side. -/
theorem Value.attributeToken_eq_ok_iff {resolver : Resolver} {operand : Value} {token : String} :
    operand.attributeToken resolver = .ok token ↔
      ∃ id, operand = .attributeRef id ∧ resolver.attributeToken id = some token ∧ token ≠ "" := by
  cases operand with
  | attributeRef id =>
    have answered := @nonEmpty?_eq_some_iff (resolver.attributeToken id) token
    rw [attributeToken]
    cases answer : nonEmpty? (resolver.attributeToken id) with
    | none =>
      -- No token counts, so there is none that is not empty.
      rw [answer] at answered
      refine ⟨nofun, fun found => ?_⟩
      obtain ⟨other, same, named⟩ := found
      cases same
      cases answered.2 named
    | some found =>
      rw [answer] at answered
      constructor
      · intro same
        cases same
        exact ⟨id, rfl, answered.1 rfl⟩
      · intro known
        obtain ⟨other, same, named⟩ := known
        cases same
        cases answered.2 named
        rfl
  | literal _ | schemaType _ | endpointName _ =>
    refine ⟨nofun, fun found => ?_⟩
    obtain ⟨id, same, _⟩ := found
    cases same

/-- Only the constant null resolves to no token. -/
theorem Value.literalToken_eq_none_iff {resolver : Resolver} {operand : Value} :
    operand.literalToken resolver = .ok none ↔ operand = .literal .null := by
  cases operand with
  | literal constant =>
    -- Every other constant has a text, be it an empty one.
    rcases constant with _ | (_ | _) | _ | _ | _ | _ | _ <;> simp [literalToken, Literal.token?]
  | attributeRef id => exact ⟨nofun, nofun⟩
  | schemaType id =>
    rw [literalToken]
    refine ⟨fun same => ?_, nofun⟩
    split at same
    · cases same
    · split at same <;> cases same
  | endpointName id =>
    rw [literalToken]
    refine ⟨fun same => ?_, nofun⟩
    split at same <;> cases same

namespace Expr

/-- A comparison of leaves gives a statement when both sides have their tokens; without a text on
the right it has to be inequality, which tests presence. -/
theorem leafStatement_eq_ok_iff {resolver : Resolver} {op : CompareOp} {left right : Value}
    {s : Statement} :
    leafStatement resolver op left right = .ok s ↔
      ∃ token literal, left.attributeToken resolver = .ok token ∧
        right.literalToken resolver = .ok literal ∧
        (literal = none ∧ op = .notEqual ∧ s = .presence token ∨
          ∃ text, literal = some text ∧ s = .comparison token op text) := by
  -- The attribute is looked up before the other operand, and either may fail.
  unfold leafStatement
  cases left.attributeToken resolver with
  | error cause => exact ⟨nofun, nofun⟩
  | ok token =>
    cases right.literalToken resolver with
    | error cause => exact ⟨nofun, nofun⟩
    | ok literal =>
      constructor
      · intro built
        refine ⟨token, literal, rfl, rfl, ?_⟩
        cases literal with
        | none =>
          -- Every operator but inequality is refused here.
          cases op with
          | notEqual =>
            cases built
            exact .inl ⟨rfl, rfl, rfl⟩
          | equal | greaterThan | greaterOrEqual | lessThan | lessOrEqual => cases built
        | some text =>
          have same : Except.ok (.comparison token op text) = (.ok s : Except CompileError _) := by
            cases op <;> exact built
          cases same
          exact .inr ⟨text, rfl, rfl⟩
      · intro known
        obtain ⟨_, _, tokened, resolved, shape⟩ := known
        -- The tokens named are the ones that were found.
        cases tokened
        cases resolved
        rcases shape with ⟨rfl, rfl, rfl⟩ | ⟨text, rfl, rfl⟩
        · rfl
        · cases op <;> rfl

/-- A comparison of an attribute that has a token with an operand that resolves, where null is
compared for inequality only. -/
inductive Expressible (resolver : Resolver) : Expr → Prop where
  | comparison {op : CompareOp} {id : AttributeId} {operand : Value} {token : String}
      {literal : Option String} (named : resolver.attributeToken id = some token)
      (nonEmpty : token ≠ "") (resolved : operand.literalToken resolver = .ok literal)
      (sensible : operand = .literal .null → op = .notEqual) :
      Expressible resolver (.compare op (.attributeRef id) (.value operand))

/-- A comparison of leaves is expressible exactly when it has a statement. -/
theorem leafStatement_succeeds_iff {resolver : Resolver} {op : CompareOp} {left right : Value} :
    (∃ s, leafStatement resolver op left right = .ok s) ↔
      Expressible resolver (.compare op (.value left) (.value right)) := by
  constructor
  · intro found
    obtain ⟨s, built⟩ := found
    obtain ⟨token, literal, tokened, resolved, shape⟩ := leafStatement_eq_ok_iff.1 built
    obtain ⟨id, rfl, named, nonEmpty⟩ := Value.attributeToken_eq_ok_iff.1 tokened
    refine .comparison named nonEmpty resolved fun null => ?_
    -- Null has no text, so only the case of inequality is left.
    rw [Value.literalToken_eq_none_iff.2 null] at resolved
    rcases shape with ⟨_, same, _⟩ | ⟨text, same, _⟩
    · exact same
    · cases same
      cases resolved
  · intro expressible
    cases expressible with
    | @comparison _ _ _ token literal named nonEmpty resolved sensible =>
      have tokened := Value.attributeToken_eq_ok_iff.2 ⟨_, rfl, named, nonEmpty⟩
      cases literal with
      | none =>
        -- Only null has no text, so the comparison is one for inequality.
        have same := sensible (Value.literalToken_eq_none_iff.1 resolved)
        exact ⟨.presence token, leafStatement_eq_ok_iff.2
          ⟨token, none, tokened, resolved, .inl ⟨rfl, same, rfl⟩⟩⟩
      | some text =>
        exact ⟨.comparison token op text, leafStatement_eq_ok_iff.2
          ⟨token, some text, tokened, resolved, .inr ⟨text, rfl, rfl⟩⟩⟩

/-- A node has a statement exactly when it is an expressible comparison. -/
theorem statement_succeeds_iff {resolver : Resolver} {e : Expr} :
    (∃ s, e.statement resolver = .ok s) ↔ Expressible resolver e := by
  -- A comparison of anything but leaves fails, and so does every other node.
  cases e with
  | compare op left right =>
    cases left with
    | value left =>
      cases right with
      | value right => exact leafStatement_succeeds_iff
      | _ => exact ⟨nofun, nofun⟩
    | _ => cases right <;> exact ⟨nofun, nofun⟩
  | _ => exact ⟨nofun, nofun⟩

end Expr

end Subscription
