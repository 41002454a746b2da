import Subscription.Json.Reader
import Subscription.Predicate.Json
import Subscription.Wire.Reader

/-! Reading the JSON form of predicates, in which a statement has a value only where it compares. -/

namespace Subscription

/-- The operator of a name. -/
def Operator.ofName? : String → Option Operator
  | "Equals" => some .equals
  | "LessThan" => some .lessThan
  | "LessThanOrEquals" => some .lessThanOrEquals
  | "GreaterThan" => some .greaterThan
  | "GreaterThanOrEquals" => some .greaterThanOrEquals
  | "NotEqual" => some .notEqual
  | "Exists" => some .present
  | _ => none

def Statement.ofJson? : Json → Option Statement
  | .object fields => do
    let .string (some token) ← Json.required? "attribute" fields | none
    let .string (some name) ← Json.required? "operator" fields | none
    let operator ← Operator.ofName? name
    match ← Json.optional? "value" fields with
    | none => ofParts? token operator none
    | some (.string (some value)) => ofParts? token operator (some value)
    | some _ => none
  | _ => none

def Group.ofJson? : Json → Option Group
  | .object fields => do
    let .array statements ← Json.required? "statements" fields | none
    statements.mapM Statement.ofJson?
  | _ => none

def Predicate.ofJson? : Json → Option Predicate
  | .object fields => do
    let .array groups ← Json.required? "groups" fields | none
    return ⟨← groups.mapM Group.ofJson?⟩
  | _ => none

/-- The predicate of a JSON text. -/
def Predicate.ofJsonText? (text : String) : Option Predicate := do
  ofJson? (← Json.read? text)

end Subscription
