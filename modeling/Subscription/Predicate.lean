import Subscription.Expr

/-! Compiled predicates: a disjunction of groups, each a conjunction of statements. -/

namespace Subscription

/-- Statement operator of the matching engine. -/
inductive Operator where
  | equals
  | lessThan
  | lessThanOrEquals
  | greaterThan
  | greaterThanOrEquals
  | notEqual
  | present
deriving DecidableEq

namespace Operator

/-- The code of an operator on the wire. -/
def code : Operator → Nat
  | .equals => 0
  | .lessThan => 1
  | .lessThanOrEquals => 2
  | .greaterThan => 3
  | .greaterThanOrEquals => 4
  | .notEqual => 5
  | .present => 6

def name : Operator → String
  | .equals => "Equals"
  | .lessThan => "LessThan"
  | .lessThanOrEquals => "LessThanOrEquals"
  | .greaterThan => "GreaterThan"
  | .greaterThanOrEquals => "GreaterThanOrEquals"
  | .notEqual => "NotEqual"
  | .present => "Exists"

end Operator

/-- The engine's operator for a comparison. -/
def CompareOp.operator : CompareOp → Operator
  | .equal => .equals
  | .notEqual => .notEqual
  | .greaterThan => .greaterThan
  | .greaterOrEqual => .greaterThanOrEquals
  | .lessThan => .lessThan
  | .lessOrEqual => .lessThanOrEquals

/-- One test of a message attribute, which carries a value exactly when it compares. -/
inductive Statement where
  | comparison (token : String) (op : CompareOp) (value : String)
  | presence (token : String)
deriving DecidableEq

namespace Statement

/-- The token of the attribute under test. -/
def token : Statement → String
  | .comparison token _ _ => token
  | .presence token => token

def operator : Statement → Operator
  | .comparison _ op _ => op.operator
  | .presence _ => .present

def value? : Statement → Option String
  | .comparison _ _ value => some value
  | .presence _ => none

end Statement

/-- A conjunction of statements. -/
abbrev Group := List Statement

/-- A disjunction of groups, of which none at all is no filter. -/
structure Predicate where
  groups : List Group
deriving DecidableEq

namespace Predicate

/-- The predicate of no filter. -/
def empty : Predicate :=
  ⟨[]⟩

def isEmpty (p : Predicate) : Bool :=
  p.groups.isEmpty

/-- The number of statements in all groups. -/
def statementCount (p : Predicate) : Nat :=
  p.groups.flatten.length

end Predicate

end Subscription
