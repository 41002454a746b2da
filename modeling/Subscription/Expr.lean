import Subscription.Binary64

/-! Filter expressions: trees of connectives and comparisons over typed leaf operands. -/

namespace Subscription

/-- Handle of an attribute declared in the attribute catalog. -/
structure AttributeId where
  name : String
deriving DecidableEq

/-- Handle of a schema in the schema registry. -/
structure SchemaId where
  name : String
deriving DecidableEq

/-- Handle of an endpoint that the naming convention names. -/
structure EndpointId where
  name : String
deriving DecidableEq

/-- Comparison operator as a filter writes it. -/
inductive CompareOp where
  | equal
  | notEqual
  | greaterThan
  | greaterOrEqual
  | lessThan
  | lessOrEqual
deriving DecidableEq

namespace CompareOp

def symbol : CompareOp → String
  | .equal => "=="
  | .notEqual => "!="
  | .greaterThan => ">"
  | .greaterOrEqual => ">="
  | .lessThan => "<"
  | .lessOrEqual => "<="

/-- The operator that holds of a present attribute exactly when this one does not. -/
def complement : CompareOp → CompareOp
  | .equal => .notEqual
  | .notEqual => .equal
  | .greaterThan => .lessOrEqual
  | .greaterOrEqual => .lessThan
  | .lessThan => .greaterOrEqual
  | .lessOrEqual => .greaterThan

theorem complement_complement (op : CompareOp) : op.complement.complement = op := by
  -- Complements come in three pairs.
  cases op <;> rfl

end CompareOp

/-- A constant operand. -/
inductive Literal where
  | null
  | bool (value : Bool)
  | int (value : Int64)
  | uint (value : UInt64)
  | float (value : Binary64)
  | text (value : String)
  | enum (typeName variant : String)
deriving DecidableEq

/-- A leaf operand, which names its source. -/
inductive Value where
  | literal (value : Literal)
  | attributeRef (id : AttributeId)
  | schemaType (id : SchemaId)
  | endpointName (id : EndpointId)
deriving DecidableEq

/-- The source of a leaf operand, in words for a reader. -/
def Value.sourceName : Value → String
  | .literal _ => "literal"
  | .attributeRef _ => "attribute"
  | .schemaType _ => "schema type"
  | .endpointName _ => "endpoint name"

/-- A filter expression, whose operands may be any expressions until it is compiled. -/
inductive Expr where
  | and (left right : Expr)
  | or (left right : Expr)
  | not (inner : Expr)
  | compare (op : CompareOp) (left right : Expr)
  | value (value : Value)
deriving DecidableEq

/-- The kind of a node, which a failure reports. -/
inductive NodeKind where
  | and
  | or
  | not
  | compare
  | value
deriving DecidableEq

def NodeKind.name : NodeKind → String
  | .and => "And"
  | .or => "Or"
  | .not => "Not"
  | .compare => "Compare"
  | .value => "Value"

/-- Equality of constants, in which floats compare as numbers. -/
def Literal.same : Literal → Literal → Bool
  | .float a, .float b => a.same b
  | a, b => a == b

/-- Equality of operands, in which floats compare as numbers. -/
def Value.same : Value → Value → Bool
  | .literal a, .literal b => a.same b
  | a, b => a == b

namespace Expr

def kind : Expr → NodeKind
  | .and _ _ => .and
  | .or _ _ => .or
  | .not _ => .not
  | .compare _ _ _ => .compare
  | .value _ => .value

/-- An attribute as an operand. -/
def attributeRef (id : AttributeId) : Expr :=
  .value (.attributeRef id)

/-- A constant as an operand. -/
def literal (value : Literal) : Expr :=
  .value (.literal value)

/-- Equality of trees, in which floats compare as numbers. -/
def same : Expr → Expr → Bool
  | .and a b, .and c d => a.same c && b.same d
  | .or a b, .or c d => a.same c && b.same d
  | .not a, .not b => a.same b
  | .compare op a b, .compare op' c d => op == op' && a.same c && b.same d
  | .value a, .value b => a.same b
  | _, _ => false

/-- Nodes on the longest path from the root to a leaf. -/
def height : Expr → Nat
  | .and left right | .or left right | .compare _ left right => 1 + max left.height right.height
  | .not inner => 1 + inner.height
  | .value _ => 1

/-- Number of nodes. -/
def size : Expr → Nat
  | .and left right | .or left right | .compare _ left right => 1 + left.size + right.size
  | .not inner => 1 + inner.size
  | .value _ => 1

/-- The operands of a node, the right one first. -/
def children : Expr → List Expr
  | .and left right | .or left right | .compare _ left right => [right, left]
  | .not inner => [inner]
  | .value _ => []

/-- Number of nodes still to be visited, descendants included. -/
def pendingSize : List (Expr × Nat) → Nat
  | [] => 0
  | (node, _) :: pending => node.size + pendingSize pending

/-- Visiting a node lightens the list, because a node weighs more than its children together. -/
theorem pendingSize_children_lt (node : Expr) (level : Nat) (pending : List (Expr × Nat)) :
    pendingSize (node.children.map (·, level) ++ pending) < node.size + pendingSize pending := by
  -- A node has two children, one or none, and counts itself besides.
  cases node <;>
    simp only [children, List.map_cons, List.map_nil, List.cons_append, List.nil_append,
      pendingSize, size] <;>
    omega

/-- The deepest level among nodes still to be visited and their descendants. -/
def deepest (soFar : Nat) : List (Expr × Nat) → Nat
  | [] => soFar
  | (node, level) :: pending =>
    deepest (max soFar level) (node.children.map (·, level + 1) ++ pending)
termination_by pending => pendingSize pending
decreasing_by exact pendingSize_children_lt node (level + 1) pending

/-- The depth of a tree, found with a list of pending nodes in place of the call stack. -/
def depth (e : Expr) : Nat :=
  deepest 0 [(e, 1)]

end Expr

end Subscription
