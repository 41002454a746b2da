import Subscription.Binary64.Scaling
import Subscription.Json
import Subscription.Text.Digits

/-! Reading JSON text by the strict grammar, without a limit on nesting. -/

namespace Subscription.Json

namespace Reader

/-- What is left of a text after the blanks that JSON allows between tokens. -/
def skipBlanks : List Char → List Char
  | c :: rest =>
    if c = ' ' ∨ c = '\t' ∨ c = '\n' ∨ c = '\r' then skipBlanks rest else c :: rest
  | [] => []

/-- The character that an escape letter stands for. -/
def escape? : Char → Option Char
  | '"' => some '"'
  | '\\' => some '\\'
  | '/' => some '/'
  | 'b' => some '\x08'
  | 'f' => some '\x0c'
  | 'n' => some '\n'
  | 'r' => some '\r'
  | 't' => some '\t'
  | _ => none

/-- Whether a unit is the first half of a surrogate pair. -/
def isHighSurrogate (u : Nat) : Bool :=
  0xd800 ≤ u && u < 0xdc00

/-- Whether a unit is the second half of a surrogate pair. -/
def isLowSurrogate (u : Nat) : Bool :=
  0xdc00 ≤ u && u < 0xe000

/-- What has been read of a string. -/
structure Spelled where
  /-- The characters, the last one first, unless half of a surrogate pair was among them. -/
  chars : Option (List Char) := some []
  /-- The first half of a pair, which the second one has to follow at once. -/
  half : Option Nat := none

namespace Spelled

/-- A character is added, unless it parts the halves of a pair. -/
def char (s : Spelled) (c : Char) : Spelled :=
  match s.half with
  | none => { s with chars := s.chars.map (c :: ·) }
  | some _ => { chars := none }

/-- A unit of sixteen bits is added, alone or as half of a pair. -/
def unit (s : Spelled) (u : Nat) : Spelled :=
  match s.half with
  | none =>
    if isHighSurrogate u then { s with half := some u }
    else if isLowSurrogate u then { chars := none }
    else s.char (Char.ofNat u)
  | some high =>
    if isLowSurrogate u then
      { chars := s.chars.map (Char.ofNat (0x10000 + (high - 0xd800) * 0x400 + (u - 0xdc00)) :: ·) }
    else { chars := none }

/-- The text, if every half has met its other half. -/
def text (s : Spelled) : Text :=
  match s.half with
  | none => s.chars.map fun cs => String.ofList cs.reverse
  | some _ => none

end Spelled

/-- The rest of a string up to its closing quote, and what follows. -/
def stringFrom (s : Spelled) : List Char → Option (Text × List Char)
  | '"' :: rest => some (s.text, rest)
  | '\\' :: 'u' :: a :: b :: c :: d :: rest => do
    let u ← Text.number? 16 [a, b, c, d]
    stringFrom (s.unit u) rest
  | '\\' :: c :: rest => do
    let c ← escape? c
    stringFrom (s.char c) rest
  | c :: rest =>
    -- Raw controls are refused, and so is a backslash that ends the text.
    if c < ' ' ∨ c = '\\' then none else stringFrom (s.char c) rest
  | [] => none

/-- The digits that open a text and what follows them, refused when there is none. -/
def digits? (cs : List Char) : Option (List Char × List Char) :=
  match cs.takeWhile Char.isDigit with
  | [] => none
  | digits => some (digits, cs.dropWhile Char.isDigit)

/-- The digits after a decimal point, if there is a point. -/
def fraction? : List Char → Option (Option (List Char) × List Char)
  | '.' :: rest => do
    let (digits, rest) ← digits? rest
    return (some digits, rest)
  | cs => some (none, cs)

/-- Digits with a sign of either kind in front of them, or none. -/
def signed? : List Char → Option (Int × List Char)
  | '-' :: rest => (digits? rest).map fun (ds, rest) => (-Nat.ofDigitChars 10 ds 0, rest)
  | '+' :: rest => (digits? rest).map fun (ds, rest) => (Nat.ofDigitChars 10 ds 0, rest)
  | rest => (digits? rest).map fun (ds, rest) => (Nat.ofDigitChars 10 ds 0, rest)

/-- The exponent behind an exponent mark, if there is a mark. -/
def exponent? : List Char → Option (Option Int × List Char)
  | c :: rest =>
    if c = 'e' ∨ c = 'E' then (signed? rest).map fun (n, rest) => (some n, rest)
    else some (none, c :: rest)
  | [] => some (none, [])

/-- The number of an integer's magnitude; a negative zero is a float. -/
def integer (negative : Bool) (magnitude : Nat) : Number :=
  if !negative then .integer magnitude
  else if magnitude = 0 ∨ 0x8000000000000000 < magnitude then
    .float true (Decimal.nearestRank ⟨magnitude, 0⟩)
  else .integer (-magnitude)

/-- The digits of a whole part, in which a leading zero stands alone. -/
def whole? : List Char → Option (List Char × List Char)
  | '0' :: rest => some (['0'], rest)
  | cs => digits? cs

/-- The number of its parts: an integer where it has neither places nor an exponent and sixty-four
bits hold its digits. -/
def ofParts (negative : Bool) (whole : List Char) (places : Option (List Char))
    (exponent : Option Int) : Number :=
  let kept := Decimal.ofWhole 0 whole
  if places.isNone ∧ exponent.isNone ∧ kept.exponent = 0 then integer negative kept.significand
  else
    let kept := kept.withPlaces (places.getD [])
    let scaled : Decimal := { kept with exponent := kept.exponent + exponent.getD 0 }
    .float negative scaled.scaledRank

/-- A number behind its sign. -/
def magnitude? (negative : Bool) (cs : List Char) : Option (Number × List Char) := do
  let (whole, rest) ← whole? cs
  let (places, rest) ← fraction? rest
  let (exponent, rest) ← exponent? rest
  return (ofParts negative whole places exponent, rest)

/-- A number with its sign. -/
def number? : List Char → Option (Number × List Char)
  | '-' :: rest => magnitude? true rest
  | cs => magnitude? false cs

mutual

/-- A value and what follows it; `fuel` bounds the tokens. -/
def value : Nat → List Char → Option (Json × List Char)
  | 0, _ => none
  | fuel + 1, cs =>
    match skipBlanks cs with
    | 'n' :: 'u' :: 'l' :: 'l' :: rest => some (.null, rest)
    | 't' :: 'r' :: 'u' :: 'e' :: rest => some (.bool true, rest)
    | 'f' :: 'a' :: 'l' :: 's' :: 'e' :: rest => some (.bool false, rest)
    | '"' :: rest => (stringFrom {} rest).map fun (s, rest) => (.string s, rest)
    | '[' :: rest =>
      match skipBlanks rest with
      | ']' :: rest => some (.array [], rest)
      | rest => (items fuel rest).map fun (items, rest) => (.array items, rest)
    | '\x7b' :: rest =>
      match skipBlanks rest with
      | '\x7d' :: rest => some (.object [], rest)
      | rest => (fields fuel rest).map fun (fields, rest) => (.object fields, rest)
    | rest => (number? rest).map fun (n, rest) => (.number n, rest)

/-- The items of an array up to its closing bracket. -/
def items : Nat → List Char → Option (List Json × List Char)
  | 0, _ => none
  | fuel + 1, cs => do
    let (item, rest) ← value fuel cs
    match skipBlanks rest with
    | ']' :: rest => return ([item], rest)
    | ',' :: rest =>
      let (more, rest) ← items fuel rest
      return (item :: more, rest)
    | _ => none

/-- The fields of an object up to its closing brace. -/
def fields : Nat → List Char → Option (List (Text × Json) × List Char)
  | 0, _ => none
  | fuel + 1, cs => do
    let '"' :: rest := skipBlanks cs | none
    let (name, rest) ← stringFrom {} rest
    let ':' :: rest := skipBlanks rest | none
    let (item, rest) ← value fuel rest
    match skipBlanks rest with
    | '\x7d' :: rest => return ([(name, item)], rest)
    | ',' :: rest =>
      let (more, rest) ← fields fuel rest
      return ((name, item) :: more, rest)
    | _ => none

end

/-- Blanks in front of a value make no difference. -/
theorem value_congr {cs ds : List Char} (same : skipBlanks cs = skipBlanks ds) (fuel : Nat) :
    value fuel cs = value fuel ds := by
  -- A step begins by skipping blanks, and looks at nothing before it has.
  cases fuel with
  | zero => rfl
  | succ fuel => rw [value, same, value]

/-- Blanks in front of items make no difference. -/
theorem items_congr {cs ds : List Char} (same : skipBlanks cs = skipBlanks ds) (fuel : Nat) :
    items fuel cs = items fuel ds := by
  -- The first item is read from the same place, and it leaves the same text to the others.
  cases fuel with
  | zero => rfl
  | succ fuel => rw [items, value_congr same, items]

/-- Blanks in front of fields make no difference. -/
theorem fields_congr {cs ds : List Char} (same : skipBlanks cs = skipBlanks ds) (fuel : Nat) :
    fields fuel cs = fields fuel ds := by
  -- The first field's name is looked for behind the blanks.
  cases fuel with
  | zero => rfl
  | succ fuel => rw [fields, same, fields]

end Reader

/-- The value that a whole text holds, with only blanks around it. -/
def read? (s : String) : Option Json := do
  -- Every step down consumes a character first, and an array's or object's loop costs two steps.
  let (value, rest) ← Reader.value (2 * s.length + 2) s.toList
  let [] := Reader.skipBlanks rest | none
  return value

end Subscription.Json
