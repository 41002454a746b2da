import Subscription.Yaml.Scalar
import Subscription.Yaml.Token

/-! Reading anchors, tags and directives, whose names and identifiers have grammars of their own. -/

namespace Subscription.Yaml.Tag

/-- Whether a character may stand in a tag as itself or open an escape. -/
def isTagChar (c : Char) : Bool :=
  isNameChar c || c ∈ [';', '/', '?', ':', '@', '&', '=', '+', '$', '.', '%', '!', '~', '*', '\'',
    '(', ')']

/-- Whether a character may stand in a whole identifier, where brackets do not end it. -/
def isIdentifierChar (c : Char) : Bool :=
  isTagChar c || c = ',' || c = '[' || c = ']'

/-- How many octets a character has in UTF-8, by the first of them. -/
def octetCount (first : Nat) : Nat :=
  if first < 0x80 then 1
  else if 0xc0 ≤ first ∧ first < 0xe0 then 2
  else if 0xe0 ≤ first ∧ first < 0xf0 then 3
  else if 0xf0 ≤ first ∧ first < 0xf8 then 4
  else 0

/-- The characters of an identifier, each escaped octet standing as the character of its number. -/
def unescape? : Nat → List Char → Option (List Char)
  | 0, [] => some []
  | more, '%' :: a :: b :: rest => do
    let octet ← Text.number? 16 [a, b]
    -- The first octet of a character says how many have to follow.
    let more ← if more = 0 then
        (if octetCount octet = 0 then none else some (octetCount octet - 1))
      else if 0x80 ≤ octet ∧ octet < 0xc0 then some (more - 1)
      else none
    return Char.ofNat octet :: (← unescape? more rest)
  | 0, c :: rest => if c = '%' then none else (unescape? 0 rest).map (c :: ·)
  | _ + 1, _ => none

/-- An identifier, which an escaped zero cuts short. -/
def identifier? (cs : List Char) : Option (List Char) :=
  (unescape? 0 cs).map (·.takeWhile (· ≠ '\x00'))

/-- A handle, an exclamation mark and perhaps a name with another behind it, and what follows. -/
def handle? (c : Cursor) : Option (List Char × Cursor) :=
  match c.rest with
  | '!' :: rest =>
    let name := rest.takeWhile isNameChar
    let after := c.skip (1 + name.length)
    if after.head? = some '!' then some ('!' :: name ++ ['!'], after.skip 1)
    else some ('!' :: name, after)
  | _ => none

/-- A tag that starts here and what follows. -/
def tag? (inFlow : Bool) (c : Cursor) : Option (Token × Cursor) := do
  let (handle, suffix, c) ←
    if c.rest.take 2 = ['!', '<'] then do
      let c := c.skip 2
      let spelled := c.rest.takeWhile isIdentifierChar
      let suffix ← identifier? spelled
      let c := c.skip spelled.length
      if spelled.isEmpty || c.head? != some '>' then none
      pure ([], suffix, c.skip 1)
    else do
      let (handle, c) ← handle? c
      let spelled := c.rest.takeWhile isTagChar
      let suffix ← identifier? spelled
      let c := c.skip spelled.length
      if 1 < handle.length ∧ handle.getLast? = some '!' then
        if spelled.isEmpty then none
        pure (handle, suffix, c)
      else
        -- A name that no second mark ends belongs to the tag itself.
        let suffix := handle.tail ++ suffix
        if suffix.isEmpty then pure ([], ['!'], c) else pure (['!'], suffix, c)
  if c.isOpenAt 0 || (inFlow && c.head? == some ',') then return (.tag handle suffix, c)
  none

/-- The name of an anchor or an alias behind its mark, and what follows. -/
def anchorName? (c : Cursor) : Option (String × Cursor) :=
  let name := c.rest.takeWhile isNameChar
  let c := c.skip name.length
  if name.isEmpty then none
  else if c.isOpenAt 0 || c.head?.any (· ∈ ['?', ':', ',', ']', '\x7d', '%', '@', '\x60']) then
    some (String.ofList name, c)
  else none

/-- A number of at most nine digits and what follows. -/
def versionNumber? (c : Cursor) : Option (Nat × Cursor) :=
  let digits := c.rest.takeWhile Char.isDigit
  if digits.isEmpty || 9 < digits.length then none
  else some (Nat.ofDigitChars 10 digits 0, c.skip digits.length)

/-- The two numbers of a version. -/
def version? (c : Cursor) : Option (Token × Cursor) := do
  let (major, c) ← versionNumber? c.skipBlanks
  if c.head? ≠ some '.' then none
  let (minor, c) ← versionNumber? (c.skip 1)
  return (.version major minor, c)

/-- A handle and what it abbreviates. -/
def shorthand? (c : Cursor) : Option (Token × Cursor) := do
  let (handle, c) ← handle? c.skipBlanks
  if handle.getLast? ≠ some '!' then none
  if !c.head?.any isBlank then none
  let c := c.skipBlanks
  let spelled := c.rest.takeWhile isIdentifierChar
  let expansion ← identifier? spelled
  let c := c.skip spelled.length
  if spelled.isEmpty || !c.isOpenAt 0 then none
  return (.tagShorthand handle expansion, c)

/-- A directive that starts here, and the line after it. -/
def directive? (c : Cursor) : Option (Token × Cursor) := do
  let c := c.skip 1
  let name := c.rest.takeWhile isNameChar
  let c := c.skip name.length
  if name.isEmpty || !c.isOpenAt 0 then none
  let (token, c) ←
    if name = ['Y', 'A', 'M', 'L'] then version? c
    else if name = ['T', 'A', 'G'] then shorthand? c
    else none
  return (token, ← c.endLine?)

end Subscription.Yaml.Tag
