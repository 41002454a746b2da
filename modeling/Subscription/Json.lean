import Subscription.Binary64.Decimal

/-! JSON values that keep the order and repetition of their fields. -/

namespace Subscription

/-- The text of a JSON string, or nothing where its escapes name half of a surrogate pair. -/
abbrev Json.Text := Option String

/-- A JSON number by its value. -/
inductive Json.Number where
  /-- A number written as digits alone, with a sign perhaps, that sixty-four bits hold. -/
  | integer (value : Int)
  /-- Any other number by the rank it is read as, which may lie past every finite one. -/
  | float (negative : Bool) (rank : Nat)
deriving DecidableEq

/-- A JSON value. -/
inductive Json where
  | null
  | bool (value : Bool)
  | number (value : Json.Number)
  | string (value : Json.Text)
  | array (items : List Json)
  | object (fields : List (Json.Text × Json))

namespace Json

/-- The integer that a number is, if it is one. -/
def Number.toInt? : Number → Option Int
  | .integer n => some n
  | .float _ _ => none

/-- The binary64 number nearest to a number, or nothing when it would be infinite. -/
def Number.toBinary64? : Number → Option Binary64
  | .integer n => Binary64.ofRank? (n < 0) (Decimal.nearestRank ⟨n.natAbs, 0⟩)
  | .float negative rank => Binary64.ofRank? negative rank

/-- A string of plain text. -/
def text (s : String) : Json :=
  .string (some s)

/-- An integer. -/
def int (n : Int) : Json :=
  .number (.integer n)

/-- An object of fields with plain names. -/
def record (fields : List (String × Json)) : Json :=
  .object (fields.map fun (name, value) => (some name, value))

/-- An object of a single field. -/
def tagged (tag : String) (content : Json) : Json :=
  record [(tag, content)]

mutual

/-- The most arrays and objects open at once while the value is read. -/
def nesting : Json → Nat
  | .array items => 1 + nestingItems items
  | .object fields => 1 + nestingFields fields
  | _ => 0

/-- The most containers open at once within items of an array. -/
def nestingItems : List Json → Nat
  | [] => 0
  | item :: rest => max item.nesting (nestingItems rest)

/-- The most containers open at once within fields of an object. -/
def nestingFields : List (Text × Json) → Nat
  | [] => 0
  | (_, value) :: rest => max value.nesting (nestingFields rest)

end

/-- The value of an optional field of a record: `some none` when absent, refused when repeated. -/
def optional? (name : String) (fields : List (Text × Json)) : Option (Option Json) :=
  match fields.filter fun field => field.1 == some name with
  | [] => some none
  | [(_, value)] => some (some value)
  | _ => none

/-- The value of a required field of a record, refused when absent or repeated. -/
def required? (name : String) (fields : List (Text × Json)) : Option Json := do
  let value ← optional? name fields
  value

/-- Whether every name of a record is text. -/
def wellNamed (fields : List (Text × Json)) : Bool :=
  fields.all (·.1.isSome)

end Json

end Subscription
