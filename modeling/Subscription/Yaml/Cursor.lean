/-! A place in a YAML text, and the classes of characters that its grammar tells apart. -/

namespace Subscription.Yaml

def isBlank (c : Char) : Bool :=
  c = ' ' || c = '\t'

/-- Whether a character ends a line. -/
def isBreak (c : Char) : Bool :=
  c = '\r' || c = '\n' || c = '\u0085' || c = '\u2028' || c = '\u2029'

/-- Whether a character may stand in the name of an anchor, a handle or a directive. -/
def isNameChar (c : Char) : Bool :=
  c.isAlphanum || c = '_' || c = '-'

/-- Whether a text may hold a character at all. -/
def isAllowed (c : Char) : Bool :=
  c = '\t' || c = '\n' || c = '\r' || (' ' ≤ c && c ≤ '~') || c = '\u0085' ||
    ('\u00a0' ≤ c && c ≤ '\ufffd') || 0x10000 ≤ c.toNat

/-- How many octets characters take in UTF-8. -/
def octets (cs : List Char) : Nat :=
  cs.foldl (fun count c => count + c.utf8Size) 0

/-- What is left of a text, and where in the text it starts. -/
structure Cursor where
  rest : List Char
  /-- The octets of the text before this place. -/
  index : Nat := 0
  line : Nat := 0
  /-- The characters of the line before this place, a byte order mark among them. -/
  column : Nat := 0

namespace Cursor

def head? (c : Cursor) : Option Char :=
  c.rest.head?

/-- The place a number of characters further on the same line. -/
def skip (c : Cursor) (n : Nat) : Cursor :=
  { c with
    rest := c.rest.drop n
    index := c.index + octets (c.rest.take n)
    column := c.column + n }

/-- The break at a place, as a scalar keeps it, and the start of the next line. -/
def readBreak (c : Cursor) : List Char × Cursor :=
  match c.rest with
  | '\r' :: '\n' :: rest =>
    (['\n'], { rest, index := c.index + 2, line := c.line + 1, column := 0 })
  | first :: rest =>
    if isBreak first then
      -- Only the two separators of Unicode survive as themselves.
      let kept := if first = '\u2028' ∨ first = '\u2029' then first else '\n'
      ([kept], { rest, index := c.index + first.utf8Size, line := c.line + 1, column := 0 })
    else ([], c)
  | [] => ([], c)

/-- Whether the text ends or has a blank or a break after a number of characters. -/
def isOpenAt (c : Cursor) (n : Nat) : Bool :=
  match c.rest[n]? with
  | some next => isBlank next || isBreak next
  | none => true

/-- The place after the blanks here. -/
def skipBlanks (c : Cursor) : Cursor :=
  c.skip (c.rest.takeWhile isBlank).length

/-- The place at the end of a comment, where one starts here. -/
def skipComment (c : Cursor) : Cursor :=
  if c.head? = some '#' then c.skip (c.rest.takeWhile (!isBreak ·)).length else c

/-- Whether a line opens with a mark of three characters that stands alone. -/
def isAtMark (c : Cursor) (mark : Char) : Bool :=
  c.column == 0 && c.rest.take 3 == [mark, mark, mark] && c.isOpenAt 3

/-- Whether a line opens with the start or the end of a document. -/
def isAtDocumentMark (c : Cursor) : Bool :=
  c.isAtMark '-' || c.isAtMark '.'

/-- The start of the next line, where only blanks and a comment are left of this one. -/
def endLine? (c : Cursor) : Option Cursor :=
  let c := c.skipBlanks.skipComment
  match c.rest with
  | [] => some c
  | next :: _ => if isBreak next then some c.readBreak.2 else none

end Cursor

end Subscription.Yaml
