import Subscription.Expr
import Subscription.Json

/-! The JSON form of expressions, in which a node is an object of one field named by its tag. -/

namespace Subscription

namespace CompareOp

/-- The name of an operator in a saved filter. -/
def name : CompareOp → String
  | .equal => "equal"
  | .notEqual => "notEqual"
  | .greaterThan => "greaterThan"
  | .greaterOrEqual => "greaterOrEqual"
  | .lessThan => "lessThan"
  | .lessOrEqual => "lessOrEqual"

/-- The operator of a name. -/
def ofName? : String → Option CompareOp
  | "equal" => some .equal
  | "notEqual" => some .notEqual
  | "greaterThan" => some .greaterThan
  | "greaterOrEqual" => some .greaterOrEqual
  | "lessThan" => some .lessThan
  | "lessOrEqual" => some .lessOrEqual
  | _ => none

theorem ofName?_name (op : CompareOp) : ofName? op.name = some op := by
  -- No two operators share a name.
  cases op <;> rfl

def toJson (op : CompareOp) : Json :=
  .text op.name

/-- An operator by its name, alone or as the tag of a null, for which another container has to be
left to open. -/
def ofJson? : Nat → Json → Option CompareOp
  | _, .string (some name) => ofName? name
  | _ + 1, .object [(some name, .null)] => ofName? name
  | _, _ => none

end CompareOp

/-- A float as a number, or null when it has no magnitude. -/
def Binary64.toJson : Binary64 → Json
  | .finite negative rank => .number (.float negative rank)
  | _ => .null

namespace Literal

def toJson : Literal → Json
  | .null => .text "null"
  | .bool b => .tagged "bool" (.bool b)
  | .int n => .tagged "int" (.int n.toInt)
  | .uint n => .tagged "uInt" (.int n.toNat)
  | .float x => .tagged "float" x.toJson
  | .text s => .tagged "text" (.text s)
  | .enum typeName variant =>
    .tagged "enum" (.record [("type_name", .text typeName), ("variant", .text variant)])

/-- A signed integer of sixty-four bits. -/
def ofInt? (n : Int) : Option Literal :=
  if -0x8000000000000000 ≤ n ∧ n ≤ 0x7fffffffffffffff then some (.int (Int64.ofInt n)) else none

/-- An unsigned integer of sixty-four bits. -/
def ofNat? (n : Int) : Option Literal :=
  if 0 ≤ n ∧ n ≤ 0xffffffffffffffff then some (.uint (UInt64.ofNat n.toNat)) else none

/-- The two texts of an enumeration constant, as a record or in order. -/
def enumOfJson? : Nat → Json → Option Literal
  | _ + 1, .object fields =>
    if Json.wellNamed fields then do
      let .string (some typeName) ← Json.required? "type_name" fields | none
      let .string (some variant) ← Json.required? "variant" fields | none
      return .enum typeName variant
    else none
  | _ + 1, .array [.string (some typeName), .string (some variant)] =>
    some (.enum typeName variant)
  | _, _ => none

/-- The content of a tagged constant, with `spare` containers left to open. -/
def ofTagged? (spare : Nat) : String → Json → Option Literal
  | "null", .null => some .null
  | "bool", .bool b => some (.bool b)
  | "int", .number n => n.toInt?.bind ofInt?
  | "uInt", .number n => n.toInt?.bind ofNat?
  | "float", .number n => n.toBinary64?.map .float
  | "text", .string (some s) => some (.text s)
  | "enum", content => enumOfJson? spare content
  | _, _ => none

/-- A constant, of which null may stand by its bare tag. -/
def ofJson? : Nat → Json → Option Literal
  | _, .string (some "null") => some .null
  | spare + 1, .object [(some tag, content)] => ofTagged? spare tag content
  | _, _ => none

end Literal

namespace Value

def toJson : Value → Json
  | .literal constant => .tagged "literal" constant.toJson
  | .attributeRef id => .tagged "attributeRef" (.text id.name)
  | .schemaType id => .tagged "schemaTypeRef" (.text id.name)
  | .endpointName id => .tagged "namedEndpointRef" (.text id.name)

/-- The content of a tagged operand. -/
def ofTagged? (spare : Nat) : String → Json → Option Value
  | "literal", content => (Literal.ofJson? spare content).map .literal
  | "attributeRef", .string (some name) => some (.attributeRef ⟨name⟩)
  | "schemaTypeRef", .string (some name) => some (.schemaType ⟨name⟩)
  | "namedEndpointRef", .string (some name) => some (.endpointName ⟨name⟩)
  | _, _ => none

/-- An operand, with a limit on the containers it may open. -/
def ofJson? : Nat → Json → Option Value
  | spare + 1, .object [(some tag, content)] => ofTagged? spare tag content
  | _, _ => none

end Value

namespace Expr

def toJson : Expr → Json
  | .and left right => .tagged "and" (.array [left.toJson, right.toJson])
  | .or left right => .tagged "or" (.array [left.toJson, right.toJson])
  | .not inner => .tagged "not" inner.toJson
  | .compare op left right =>
    .tagged "compare" (.record [("op", op.toJson), ("left", left.toJson), ("right", right.toJson)])
  | .value leaf => .tagged "value" leaf.toJson

/-- An expression, of which at most `spare` nested containers may be opened. -/
def ofJsonWithin? : Nat → Json → Option Expr
  | spare + 1, .object [(some "not", inner)] => (ofJsonWithin? spare inner).map .not
  | spare + 1, .object [(some "value", leaf)] => (Value.ofJson? spare leaf).map .value
  | spare + 2, .object [(some "and", .array [left, right])] => do
    let left ← ofJsonWithin? spare left
    let right ← ofJsonWithin? spare right
    return .and left right
  | spare + 2, .object [(some "or", .array [left, right])] => do
    let left ← ofJsonWithin? spare left
    let right ← ofJsonWithin? spare right
    return .or left right
  | spare + 2, .object [(some "compare", .array [op, left, right])] => do
    let op ← CompareOp.ofJson? spare op
    let left ← ofJsonWithin? spare left
    let right ← ofJsonWithin? spare right
    return .compare op left right
  | spare + 2, .object [(some "compare", .object fields)] =>
    -- Fields of other names are passed over, whatever they hold.
    if Json.wellNamed fields then do
      let op ← (Json.required? "op" fields).bind (CompareOp.ofJson? spare)
      let left ← (Json.required? "left" fields).bind (ofJsonWithin? spare)
      let right ← (Json.required? "right" fields).bind (ofJsonWithin? spare)
      return .compare op left right
    else none
  | _, _ => none

/-- An expression of any nesting. -/
def ofJson? (j : Json) : Option Expr :=
  ofJsonWithin? j.nesting j

end Expr

end Subscription
