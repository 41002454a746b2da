import Subscription.Compile
import Subscription.Wire

/-! Filters, which combine expressions and keep every negation at a leaf. -/

namespace Subscription

namespace Expr

/-- The comparison of an attribute with a truth value. -/
def flag (id : AttributeId) (value : Bool) : Expr :=
  .compare .equal (.attributeRef id) (.literal (.bool value))

/-- The negation of a tree, pushed through connectives into its comparisons. -/
def negate : Expr → Expr
  | .and left right => .or left.negate right.negate
  | .or left right => .and left.negate right.negate
  | .not inner => inner
  | .value (.attributeRef id) => flag id false
  -- A comparison with a truth value keeps to equality and turns the value instead.
  | .compare .equal left (.value (.literal (.bool b))) =>
    .compare .equal left (.literal (.bool !b))
  | .compare .notEqual left (.value (.literal (.bool b))) =>
    .compare .equal left (.literal (.bool b))
  | .compare op left right => .compare op.complement left right
  | e => .not e

/-- The tree with bare attributes read as flags and negations pushed to the leaves. -/
def lift : Expr → Expr
  | .and left right => .and left.lift right.lift
  | .or left right => .or left.lift right.lift
  | .not inner => inner.lift.negate
  | .value (.attributeRef id) => flag id true
  | e => e

end Expr

/-- A filter, of which the empty one restricts nothing. -/
structure Filter where
  expr : Option Expr
deriving DecidableEq

namespace Filter

/-- The filter of an expression, lifted. -/
def ofExpr (e : Expr) : Filter :=
  ⟨some e.lift⟩

/-- The filter that restricts nothing. -/
def empty : Filter :=
  ⟨none⟩

/-- A comparison of an attribute, taken as it is. -/
def compare (op : CompareOp) (id : AttributeId) (value : Value) : Filter :=
  ⟨some (.compare op (.attributeRef id) (.value value))⟩

/-- The test that a truth-valued attribute holds. -/
def flag (id : AttributeId) : Filter :=
  ofExpr (.attributeRef id)

/-- The test that an attribute is present. -/
def present (id : AttributeId) : Filter :=
  compare .notEqual id (.literal .null)

/-- Two filters under a connective, to which the empty filter adds nothing. -/
def combine (connective : Expr → Expr → Expr) (f g : Filter) : Filter :=
  match f.expr, g.expr with
  | some a, some b => ⟨some (connective a b)⟩
  | a, b => ⟨a <|> b⟩

/-- Both filters. -/
def and (f g : Filter) : Filter :=
  combine .and f g

/-- Either filter. -/
def or (f g : Filter) : Filter :=
  combine .or f g

/-- The opposite filter; the empty filter has none and stays. -/
def not (f : Filter) : Filter :=
  ⟨f.expr.map Expr.negate⟩

def isEmpty (f : Filter) : Bool :=
  f.expr.isNone

/-- Equality of filters, in which floats compare as numbers. -/
def same (f g : Filter) : Bool :=
  match f.expr, g.expr with
  | some a, some b => a.same b
  | none, none => true
  | _, _ => false

/-- The predicate of a filter, of which the empty one has the empty predicate. -/
def compile (resolver : Resolver) (settings : Settings) (f : Filter) :
    Except CompileError Predicate :=
  match f.expr with
  | some e => e.compile resolver settings
  | none => .ok .empty

/-- The wire form of a filter, which the empty filter does not have. -/
def toXml (resolver : Resolver) (settings : Settings) (f : Filter) :
    Except CompileError (Option String) := do
  let predicate ← f.compile resolver settings
  return predicate.toXml? settings.declaration

end Filter

end Subscription
