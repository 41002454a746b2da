import Subscription.Proofs.Filter.Negation
import Subscription.Proofs.Message

/-! What a filter as written says of a message, and how opposite comparisons relate. -/

namespace Subscription.Expr

variable {resolver : Resolver} {m : Message}

/-- The tokens of a comparison's operands, an attribute that the host knows on the left and a leaf
that resolves on the right. -/
inductive OperandTokens (resolver : Resolver) : Expr → Expr → String → Option String → Prop where
  | intro {id : AttributeId} {operand : Value} {token : String} {literal : Option String}
      (named : resolver.attributeToken id = some token)
      (resolved : operand.literalToken resolver = .ok literal) :
      OperandTokens resolver (.attributeRef id) (.value operand) token literal

/-- What a comparison says of a message, where its operands have their tokens. -/
def ComparisonMeans (resolver : Resolver) (m : Message) (op : CompareOp) (left right : Expr) :
    Prop :=
  ∃ token literal, OperandTokens resolver left right token literal ∧ m.Says token op literal

/-- What an expression says of a message: connectives are those of logic, and an attribute that
stands alone is compared with truth. -/
def Means (resolver : Resolver) (m : Message) : Expr → Prop
  | .and left right => left.Means resolver m ∧ right.Means resolver m
  | .or left right => left.Means resolver m ∨ right.Means resolver m
  | .not inner => ¬ inner.Means resolver m
  | .compare op left right => ComparisonMeans resolver m op left right
  | .value (.attributeRef id) =>
    ComparisonMeans resolver m .equal (.attributeRef id) (.literal (.bool true))
  | .value _ => False

/-- A comparison whose operands have tokens and that compares null for equality or inequality. -/
def ReadableComparison (resolver : Resolver) (op : CompareOp) (left right : Expr) : Prop :=
  ∃ token literal, OperandTokens resolver left right token literal ∧
    (literal = none → op = .equal ∨ op = .notEqual)

/-- An expression of which every leaf says something of a message. -/
def Readable (resolver : Resolver) : Expr → Prop
  | .and left right | .or left right => left.Readable resolver ∧ right.Readable resolver
  | .not inner => inner.Readable resolver
  | .compare op left right => ReadableComparison resolver op left right
  | .value (.attributeRef id) =>
    ReadableComparison resolver .equal (.attributeRef id) (.literal (.bool true))
  | .value _ => False

/-- A message that has every attribute an expression mentions, and one of the two truth values for
every attribute that the expression reads as one. -/
structure Settles (resolver : Resolver) (m : Message) (e : Expr) : Prop where
  present : ∀ id ∈ e.attributes, ∀ token, resolver.attributeToken id = some token →
    PresentIn m.holds token
  truth : ∀ id ∈ e.flags, ∀ token, resolver.attributeToken id = some token →
    m.holds (.comparison token .equal "True") ∨ m.holds (.comparison token .equal "False")

/-- Operands have one token each. -/
theorem OperandTokens.unique {left right : Expr} {token token' : String}
    {literal literal' : Option String} (first : OperandTokens resolver left right token literal)
    (second : OperandTokens resolver left right token' literal') :
    token' = token ∧ literal' = literal := by
  -- Both operands are the same, so their tokens were asked for in the same words.
  cases first with
  | intro named resolved =>
    cases second with
    | intro named' resolved' =>
      rw [named] at named'
      rw [resolved] at resolved'
      cases named'
      cases resolved'
      exact ⟨rfl, rfl⟩

/-- A truth value on the right has its own text for a token. -/
theorem operandTokens_bool_iff {left : Expr} {b : Bool} {token : String} {literal : Option String} :
    OperandTokens resolver left (.literal (.bool b)) token literal ↔
      literal = (Literal.bool b).token? ∧
        ∃ id, left = .attributeRef id ∧ resolver.attributeToken id = some token := by
  -- Its token is its text, so the left operand decides whether there are two tokens.
  constructor
  · intro tokens
    cases tokens with
    | intro named resolved => exact ⟨(Except.ok.inj resolved).symm, _, rfl, named⟩
  · intro parts
    obtain ⟨rfl, id, rfl, named⟩ := parts
    exact .intro named rfl

/-- With the tokens of both operands known, a comparison says what is said of them. -/
theorem OperandTokens.means_iff {op : CompareOp} {left right : Expr} {token : String}
    {literal : Option String} (tokens : OperandTokens resolver left right token literal) :
    ComparisonMeans resolver m op left right ↔ m.Says token op literal := by
  -- There are no other tokens that it could be meant with.
  constructor
  · intro meant
    obtain ⟨token', literal', other, said⟩ := meant
    obtain ⟨rfl, rfl⟩ := tokens.unique other
    exact said
  · intro said
    exact ⟨token, literal, tokens, said⟩

/-- The opposite of a comparison holds of no message of which the comparison does. -/
theorem Opposite.means_sound {op op' : CompareOp} {left right right' : Expr}
    (opposite : Opposite op right op' right') (meant : ComparisonMeans resolver m op' left right') :
    ¬ ComparisonMeans resolver m op left right := by
  -- Where the opposite is said, its tokens are those of the comparison, up to a turned truth value.
  obtain ⟨token, literal, tokens, said⟩ := meant
  cases opposite with
  | truth b =>
    obtain ⟨rfl, owner⟩ := operandTokens_bool_iff.1 tokens
    rw [(operandTokens_bool_iff.2 ⟨rfl, owner⟩).means_iff]
    exact said.not_other_truth
  | difference b =>
    obtain ⟨rfl, owner⟩ := operandTokens_bool_iff.1 tokens
    rw [tokens.means_iff]
    exact said.not_notEqual
  | complement _ _ _ =>
    rw [tokens.means_iff]
    exact said.complement_sound

/-- A comparison with a truth value is readable when the host knows the attribute. -/
theorem readableComparison_bool_iff {op : CompareOp} {left : Expr} {b : Bool} :
    ReadableComparison resolver op left (.literal (.bool b)) ↔
      ∃ token id, left = .attributeRef id ∧ resolver.attributeToken id = some token := by
  constructor
  · intro readable
    obtain ⟨token, literal, tokens, _⟩ := readable
    exact ⟨token, (operandTokens_bool_iff.1 tokens).2⟩
  · intro known
    -- A truth value has a text, so no operator is excluded.
    obtain ⟨token, owner⟩ := known
    exact ⟨token, _, operandTokens_bool_iff.2 ⟨rfl, owner⟩, fun null => by cases b <;> cases null⟩

/-- Of two opposite comparisons both are readable or neither. -/
theorem Opposite.readable_iff {op op' : CompareOp} {left right right' : Expr}
    (opposite : Opposite op right op' right') :
    ReadableComparison resolver op' left right' ↔ ReadableComparison resolver op left right := by
  -- A truth value is readable with either operator, and a complement keeps the two that null
  -- allows.
  cases opposite with
  | truth b | difference b => rw [readableComparison_bool_iff, readableComparison_bool_iff]
  | complement _ _ _ => simp only [ReadableComparison, CompareOp.complement_equality_iff]

/-- Of a message that settles a readable comparison, exactly one of it and its opposite holds. -/
theorem Opposite.means_exact {op op' : CompareOp} {left right right' : Expr}
    (opposite : Opposite op right op' right') (readable : ReadableComparison resolver op left right)
    (settles : Settles resolver m (.compare op left right)) :
    ComparisonMeans resolver m op' left right' ↔ ¬ ComparisonMeans resolver m op left right := by
  refine ⟨opposite.means_sound, fun different => ?_⟩
  obtain ⟨token, literal, tokens, sensible⟩ := readable
  rw [tokens.means_iff] at different
  cases tokens with
  | @intro id operand _ _ named resolved =>
    -- The attribute is the first that the comparison mentions, so it is present.
    have present := settles.present id (.head _) token named
    cases opposite with
    | truth b =>
      cases resolved
      have decided := settles.truth id (.head _) token named
      exact ⟨token, _, .intro named rfl, Message.Says.other_truth decided different⟩
    | difference b =>
      cases resolved
      exact ⟨token, _, .intro named rfl,
        (@Message.Says.complement_iff m token .notEqual _ present fun _ => .inr rfl).2 different⟩
    | complement _ _ _ =>
      exact ⟨token, literal, .intro named resolved,
        (Message.Says.complement_iff present sensible).2 different⟩

end Subscription.Expr
