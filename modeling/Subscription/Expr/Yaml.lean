import Subscription.Expr.Json
import Subscription.Yaml.Decode

/-! Expressions read from YAML, where a node's tag names the alternative that it is. -/

namespace Subscription

open Yaml

/-- An operator by its word. -/
def CompareOp.decode (d : Document) : Node Nat → Decode CompareOp :=
  let words : List CompareOp :=
    [.equal, .notEqual, .greaterThan, .greaterOrEqual, .lessThan, .lessOrEqual]
  Decode.choice d (words.map fun op => (op.name, op)) []

/-- An operand as the content of an expression, for which a word would have to do; but operands have
content in all their alternatives. -/
def Value.decodeNested : Node Nat → Decode Value :=
  Decode.nestedChoice []

namespace Expr

/-- An expression as the content of another one, for which a word would have to do; but expressions
have content in all their alternatives. -/
def decodeNested : Node Nat → Decode Expr :=
  Decode.nestedChoice []

/-- Two operands in a sequence. -/
def decodePair (d : Document) (operand : Node Nat → Decode Expr) (build : Expr → Expr → Expr)
    (n : Node Nat) : Decode Expr := do
  let [left, right] ← Decode.items d n | failure
  return build (← operand left) (← operand right)

/-- The fields of a comparison, each of which is required. -/
def decodeComparison (d : Document) (operand : Node Nat → Decode Expr) (n : Node Nat) :
    Decode Expr := do
  let (op, left, right) ← Decode.record d
    [("op", fun (_, left, right) n => do return (some (← CompareOp.decode d n), left, right)),
      ("left", fun (op, _, right) n => do return (op, some (← operand n), right)),
      ("right", fun (op, left, _) n => do return (op, left, some (← operand n)))]
    (none, none, none) n
  return .compare (← (op : Option CompareOp)) (← (left : Option Expr)) (← (right : Option Expr))

/-- An expression by its tag, given how the operands in a collection are read. -/
def decodeNode (d : Document) (operand : Node Nat → Decode Expr) : Node Nat → Decode Expr :=
  Decode.choice d []
    [("and", decodePair d operand .and), ("or", decodePair d operand .or),
      ("not", fun n => .not <$> decodeNested n), ("compare", decodeComparison d operand),
      ("value", fun n => .value <$> Value.decodeNested n)]

/-- An expression with at most so many collections open at once; operands are always in one. -/
def decodeWithin (d : Document) : Nat → Node Nat → Decode Expr
  | 0 => decodeNode d fun _ => failure
  | depth + 1 => decodeNode d (decodeWithin d depth)

/-- An expression, or nothing where the node holds nothing. -/
def decodeYaml (d : Document) (n : Node Nat) : Decode (Option Expr) := do
  let n ← Decode.follow d n
  -- At most 128 collections are open at once in any document.
  if ← Decode.isPresent n then some <$> decodeWithin d 128 n else return none

/-- The expression of a text, or `none` within the result for an empty or null document. -/
def ofYaml? (text : String) : Option (Option Expr) :=
  Decode.run? decodeYaml none text

end Expr

end Subscription
