import Subscription.Wire

/-! Reading the wire form, element by element and without blanks between the tags. -/

namespace Subscription

/-- The operator that a code on the wire stands for. -/
def Operator.ofCode? : String → Option Operator
  | "0" => some .equals
  | "1" => some .lessThan
  | "2" => some .lessThanOrEquals
  | "3" => some .greaterThan
  | "4" => some .greaterThanOrEquals
  | "5" => some .notEqual
  | "6" => some .present
  | _ => none

/-- The comparison that an operator makes; the test of presence makes none. -/
def Operator.comparison? : Operator → Option CompareOp
  | .equals => some .equal
  | .notEqual => some .notEqual
  | .greaterThan => some .greaterThan
  | .greaterThanOrEquals => some .greaterOrEqual
  | .lessThan => some .lessThan
  | .lessThanOrEquals => some .lessOrEqual
  | .present => none

/-- The statement of three parts, of which the value is there exactly when the operator compares. -/
def Statement.ofParts? (token : String) (operator : Operator) (value : Option String) :
    Option Statement :=
  match operator.comparison?, value with
  | some op, some text => some (.comparison token op text)
  | none, none => some (.presence token)
  | _, _ => none

namespace Wire.Reader

/-- What follows a mark that a text opens with. -/
def after? : (mark text : List Char) → Option (List Char)
  | [], text => some text
  | m :: mark, c :: text => if m = c then after? mark text else none
  | _ :: _, [] => none

/-- The text of a value, in which `&` opens one of five entities and `<` does not occur. -/
def decode? : List Char → Option (List Char)
  | [] => some []
  | '&' :: 'l' :: 't' :: ';' :: rest => (decode? rest).map ('<' :: ·)
  | '&' :: 'g' :: 't' :: ';' :: rest => (decode? rest).map ('>' :: ·)
  | '&' :: 'a' :: 'm' :: 'p' :: ';' :: rest => (decode? rest).map ('&' :: ·)
  | '&' :: 'a' :: 'p' :: 'o' :: 's' :: ';' :: rest => (decode? rest).map ('\'' :: ·)
  | '&' :: 'q' :: 'u' :: 'o' :: 't' :: ';' :: rest => (decode? rest).map ('"' :: ·)
  | c :: rest => if c = '&' ∨ c = '<' then none else (decode? rest).map (c :: ·)

/-- The value of an attribute that a text opens with, and what follows its closing quote. -/
def attribute? (name : String) (text : List Char) : Option (String × List Char) := do
  let text ← after? (' ' :: name.toList ++ "=\"".toList) text
  let value ← decode? (text.takeWhile (· ≠ '"'))
  let rest ← after? ['"'] (text.dropWhile (· ≠ '"'))
  return (String.ofList value, rest)

/-- The value of an attribute that may be left out, and what follows it. -/
def optional (name : String) (text : List Char) : Option String × List Char :=
  match attribute? name text with
  | some (value, rest) => (some value, rest)
  | none => (none, text)

/-- A statement that a text opens with, and what follows it. -/
def statement? (text : List Char) : Option (Statement × List Char) := do
  let text ← after? "<Statement".toList text
  let (token, text) ← attribute? "Property" text
  let (code, text) ← attribute? "Operator" text
  let (value, text) := optional "Value" text
  let rest ← after? "/>".toList text
  let s ← Statement.ofParts? token (← Operator.ofCode? code) value
  return (s, rest)

/-- What can be read of a text one after the other, and what follows. -/
def many {α : Type} (item : List Char → Option (α × List Char)) (text : List Char) :
    List α × List Char :=
  match item text with
  | some (x, rest) =>
    -- An item that takes nothing would be read forever.
    if rest.length < text.length then
      let (xs, remaining) := many item rest
      (x :: xs, remaining)
    else ([], text)
  | none => ([], text)
termination_by text.length

/-- A group that a text opens with, closed at once or behind its statements, and what follows. -/
def group? (text : List Char) : Option (Group × List Char) :=
  match after? "<Group/>".toList text with
  | some rest => some ([], rest)
  | none => do
    let text ← after? "<Group>".toList text
    let (statements, text) := many statement? text
    let rest ← after? "</Group>".toList text
    return (statements, rest)

/-- The groups of a document, which may open with a declaration. -/
def document? (text : List Char) : Option (List Group) := do
  let text ← after? "<Filter>".toList ((after? declaration text).getD text)
  let (groups, text) := many group? text
  let [] ← after? "</Filter>".toList text | none
  return groups

end Wire.Reader

/-- The predicate of a wire form. -/
def Predicate.ofXml? (text : String) : Option Predicate :=
  (Wire.Reader.document? text.toList).map Predicate.mk

end Subscription
