import Subscription.Expr
import Subscription.Binary64.Decimal
import Subscription.Text.Quoted

/-! The text of an expression, for diagnostics and logs. -/

namespace Subscription

/-- The token that a statement carries for a constant, with booleans capitalised; null has none. -/
def Literal.token? : Literal → Option String
  | .null => none
  | .bool true => some "True"
  | .bool false => some "False"
  | .int n => some (toString n.toInt)
  | .uint n => some (toString n.toNat)
  | .float x => some x.text
  | .text s => some s
  | .enum _ variant => some variant

/-- The text of a constant, quoted where it is itself text. -/
def Literal.display : Literal → String
  | .null => "null"
  | .bool b => if b then "true" else "false"
  | .int n => toString n.toInt
  | .uint n => toString n.toNat
  | .float x => x.text
  | .text s => Text.quoted s
  | .enum typeName variant => typeName ++ "::" ++ variant

/-- The text of an operand, in which only an attribute stands by its bare name. -/
def Value.display : Value → String
  | .literal value => value.display
  | .attributeRef id => id.name
  | .schemaType id => "schema(" ++ id.name ++ ")"
  | .endpointName id => "endpoint(" ++ id.name ++ ")"

/-- The text of a tree, with brackets around connectives only. -/
def Expr.display : Expr → String
  | .and left right => "(" ++ left.display ++ " && " ++ right.display ++ ")"
  | .or left right => "(" ++ left.display ++ " || " ++ right.display ++ ")"
  | .not inner => "!" ++ inner.display
  | .compare op left right => left.display ++ " " ++ op.symbol ++ " " ++ right.display
  | .value leaf => leaf.display

end Subscription
