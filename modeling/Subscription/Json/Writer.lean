import Subscription.Json

/-! Writing JSON values as text, on one line or with two blanks of indentation a level. -/

namespace Subscription.Json

/-- How the parts of arrays and objects are set apart. -/
inductive Layout where
  | compact
  | indented
deriving DecidableEq

/-- How floats are written: a text for a sign and the rank of a magnitude. -/
abbrev Spelling := Bool → Nat → List Char

namespace Writer

/-- The digits of a byte in hexadecimal. -/
def hexByte (n : Nat) : List Char :=
  [Nat.digitChar (n / 16), Nat.digitChar (n % 16)]

/-- A character inside quotes: controls, quotes and backslashes are escaped, and nothing else. -/
def escapeChar (c : Char) : List Char :=
  match c with
  | '"' => ['\\', '"']
  | '\\' => ['\\', '\\']
  | '\x08' => ['\\', 'b']
  | '\x0c' => ['\\', 'f']
  | '\n' => ['\\', 'n']
  | '\r' => ['\\', 'r']
  | '\t' => ['\\', 't']
  | c => if c < ' ' then ['\\', 'u', '0', '0'] ++ hexByte c.toNat else [c]

/-- A quoted string; one without a text keeps an escape that names half of a pair. -/
def string : Text → List Char
  | some s => '"' :: s.toList.flatMap escapeChar ++ ['"']
  | none => "\"\\ud800\"".toList

/-- An integer in base ten. -/
def integer (n : Int) : List Char :=
  (if n < 0 then ['-'] else []) ++ Nat.toDigits 10 n.natAbs

/-- Digits with a point in every case, or with an exponent where the point would stand more than
sixteen digits to the right or behind more than four zeros. -/
def decimal (d : Decimal) : List Char :=
  let digits := Nat.toDigits 10 d.significand
  let point := digits.length + d.exponent
  if 0 ≤ d.exponent ∧ point ≤ 16 then
    digits ++ List.replicate d.exponent.toNat '0' ++ ['.', '0']
  else if 0 < point ∧ point ≤ 16 then
    digits.take point.toNat ++ '.' :: digits.drop point.toNat
  else if -5 < point ∧ point ≤ 0 then
    '0' :: '.' :: List.replicate (-point).toNat '0' ++ digits
  else
    -- One digit comes first, and a point only where others follow.
    digits.take 1 ++ (if digits.length = 1 then [] else '.' :: digits.drop 1) ++
      'e' :: integer (point - 1)

/-- The shortest decimal of a float, a half going to the even digit. -/
def shortest : Spelling := fun negative rank =>
  (if negative then ['-'] else []) ++ decimal (Binary64.shortestDecimal .even rank)

/-- An integer by its digits, and a float as it is spelled. -/
def number (spelling : Spelling) : Number → List Char
  | .integer n => integer n
  | .float negative rank => spelling negative rank

/-- The break before a part at a level of nesting. -/
def lineBreak : Layout → Nat → List Char
  | .compact, _ => []
  | .indented, level => '\n' :: List.replicate (2 * level) ' '

/-- The mark between a name and its value. -/
def colon : Layout → List Char
  | .compact => [':']
  | .indented => [':', ' ']

mutual

/-- A value whose surroundings are at a level of nesting. -/
def value (spelling : Spelling) (layout : Layout) (level : Nat) : Json → List Char
  | .null => "null".toList
  | .bool b => if b then "true".toList else "false".toList
  | .number n => number spelling n
  | .string s => string s
  | .array [] => ['[', ']']
  | .array (item :: rest) =>
    '[' :: lineBreak layout (level + 1) ++ value spelling layout (level + 1) item ++
      items spelling layout (level + 1) rest ++ lineBreak layout level ++ [']']
  | .object [] => ['\x7b', '\x7d']
  | .object ((name, item) :: rest) =>
    '\x7b' :: lineBreak layout (level + 1) ++ string name ++ colon layout ++
      value spelling layout (level + 1) item ++ fields spelling layout (level + 1) rest ++
      lineBreak layout level ++ ['\x7d']

/-- The items of an array after its first. -/
def items (spelling : Spelling) (layout : Layout) (level : Nat) : List Json → List Char
  | [] => []
  | item :: rest =>
    ',' :: lineBreak layout level ++ value spelling layout level item ++
      items spelling layout level rest

/-- The fields of an object after its first. -/
def fields (spelling : Spelling) (layout : Layout) (level : Nat) : List (Text × Json) → List Char
  | [] => []
  | (name, item) :: rest =>
    ',' :: lineBreak layout level ++ string name ++ colon layout ++
      value spelling layout level item ++ fields spelling layout level rest

end

end Writer

/-- The text of a value with floats in a spelling. -/
def writeWith (spelling : Spelling) (layout : Layout) (j : Json) : String :=
  String.ofList (Writer.value spelling layout 0 j)

/-- The text of a value with floats by their shortest decimals. -/
def write (layout : Layout) (j : Json) : String :=
  writeWith Writer.shortest layout j

end Subscription.Json
