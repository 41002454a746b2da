import Subscription.Yaml.Tag

/-! Splitting a YAML text into tokens, with block structure read off the indentation. -/

namespace Subscription.Yaml

/-- A place where a key may turn out to have started, once a colon follows. -/
structure PossibleKey where
  /-- Whether the place can be nothing but a key. -/
  required : Bool
  /-- The number of tokens before the place. -/
  tokensBefore : Nat
  place : Cursor

/-- What has been read of a text and what the reading has left open. -/
structure Lexer where
  cursor : Cursor
  /-- The column of the innermost block, or `-1` outside of blocks. -/
  indent : Int := -1
  /-- The columns of the blocks around it. -/
  outerIndents : List Int := []
  /-- The possible key between the innermost brackets. -/
  possibleKey : Option PossibleKey := none
  /-- The possible keys around each open bracket. -/
  outerKeys : List (Option PossibleKey) := []
  /-- Whether a key may start here. -/
  keyAllowed : Bool := true
  /-- The tokens read so far, the last one first. -/
  tokens : List Token := []

namespace Lexer

def inFlow (l : Lexer) : Bool :=
  !l.outerKeys.isEmpty

def emit (l : Lexer) (t : Token) : Lexer :=
  { l with tokens := t :: l.tokens }

/-- A token put behind the first `count` tokens. -/
def emitAt (l : Lexer) (count : Nat) (t : Token) : Lexer :=
  let later := l.tokens.length - count
  { l with tokens := l.tokens.take later ++ t :: l.tokens.drop later }

/-- The possible key is given up, which a required one may not be. -/
def dropKey? (l : Lexer) : Option Lexer :=
  if l.possibleKey.any (·.required) then none else some { l with possibleKey := none }

/-- The possible keys of every level, checked against the one line and 1024 octets they may span. -/
def dropStaleKeys? (l : Lexer) : Option Lexer :=
  let here := l.cursor
  let isStale (k : PossibleKey) : Bool :=
    k.place.line < here.line || k.place.index + 1024 < here.index
  let refused (k : Option PossibleKey) : Bool := k.any fun k => isStale k && k.required
  let kept (k : Option PossibleKey) : Option PossibleKey := k.filter (!isStale ·)
  if refused l.possibleKey || l.outerKeys.any refused then none
  else some { l with possibleKey := kept l.possibleKey, outerKeys := l.outerKeys.map kept }

/-- The place here becomes a possible key, where a key may start. -/
def saveKey? (l : Lexer) : Option Lexer :=
  if l.keyAllowed then do
    let required := !l.inFlow && l.indent == l.cursor.column
    let l ← l.dropKey?
    return { l with possibleKey := some ⟨required, l.tokens.length, l.cursor⟩ }
  else some l

/-- The blocks that are indented further than a column are closed. -/
def closeBlocks (l : Lexer) (column : Int) : Lexer :=
  if l.inFlow then l
  else
    let closed := (l.indent :: l.outerIndents).takeWhile (column < ·)
    let left := (l.indent :: l.outerIndents).drop closed.length
    { l with
      indent := left.headD (-1)
      outerIndents := left.tail
      tokens := List.replicate closed.length .blockEnd ++ l.tokens }

/-- A block is opened behind the first `count` tokens, where a column is indented further. -/
def openBlock (l : Lexer) (column count : Nat) (start : Token) : Lexer :=
  if l.inFlow || column ≤ l.indent then l
  else { l.emitAt count start with indent := column, outerIndents := l.indent :: l.outerIndents }

/-- Blanks, comments and breaks up to the next token; outside brackets a break lets a key start. -/
def skipToToken : Nat → Lexer → Lexer
  | 0, l => l
  | fuel + 1, l =>
    let c := l.cursor
    -- A byte order mark may open any line, and moves what follows one column on.
    let c := if c.column = 0 ∧ c.head? = some '\ufeff' then c.skip 1 else c
    -- A tab is no indentation.
    let skipped := c.rest.takeWhile fun x => x = ' ' || (x = '\t' && (l.inFlow || !l.keyAllowed))
    let c := (c.skip skipped.length).skipComment
    if c.head?.any isBreak then
      skipToToken fuel { l with cursor := c.readBreak.2, keyAllowed := l.keyAllowed || !l.inFlow }
    else { l with cursor := c }

/-- A token of some characters that neither is nor starts a key. -/
def indicator? (l : Lexer) (length : Nat) (t : Token) (keyAllowed : Bool) : Option Lexer := do
  let l ← l.dropKey?
  return { l.emit t with cursor := l.cursor.skip length, keyAllowed }

/-- A directive or a mark of a document, before which all blocks end. -/
def endBlocks? (l : Lexer) : Option Lexer := do
  let l ← (l.closeBlocks (-1)).dropKey?
  return { l with keyAllowed := false }

/-- The bracket that opens a collection. -/
def openFlow? (l : Lexer) (t : Token) : Option Lexer := do
  let l ← l.saveKey?
  return { l.emit t with
    cursor := l.cursor.skip 1
    possibleKey := none
    outerKeys := l.possibleKey :: l.outerKeys
    keyAllowed := true }

/-- The bracket that closes a collection. -/
def closeFlow? (l : Lexer) (t : Token) : Option Lexer := do
  let l ← l.dropKey?
  return { l.emit t with
    cursor := l.cursor.skip 1
    possibleKey := l.outerKeys.headD none
    outerKeys := l.outerKeys.tail
    keyAllowed := false }

/-- An entry of a block sequence. -/
def blockEntry? (l : Lexer) : Option Lexer :=
  if !l.inFlow && !l.keyAllowed then none
  else
    let l := l.openBlock l.cursor.column l.tokens.length .blockSequenceStart
    l.indicator? 1 .blockEntry true

/-- A mark in front of a key. -/
def explicitKey? (l : Lexer) : Option Lexer :=
  if !l.inFlow && !l.keyAllowed then none
  else
    let l := l.openBlock l.cursor.column l.tokens.length .blockMappingStart
    l.indicator? 1 .key !l.inFlow

/-- A colon, which turns the possible key before it into one. -/
def value? (l : Lexer) : Option Lexer :=
  match l.possibleKey with
  | some k =>
    let l := (l.emitAt k.tokensBefore .key).openBlock k.place.column k.tokensBefore
      .blockMappingStart
    some { l.emit .value with
      cursor := l.cursor.skip 1
      possibleKey := none
      keyAllowed := false }
  | none =>
    if !l.inFlow && !l.keyAllowed then none
    else
      let l := l.openBlock l.cursor.column l.tokens.length .blockMappingStart
      some { l.emit .value with cursor := l.cursor.skip 1, keyAllowed := !l.inFlow }

/-- A token that may be, or stand before, a key; `read` gives it and what follows. -/
def content? (l : Lexer) (read : Cursor → Option (Token × Cursor)) : Option Lexer := do
  let l ← l.saveKey?
  let (t, cursor) ← read l.cursor
  return { l.emit t with cursor, keyAllowed := false }

/-- A plain scalar, after whose last break a key may start. -/
def plain? (l : Lexer) : Option Lexer := do
  let l ← l.saveKey?
  let (text, broken, cursor) ← Scalar.plain? l.inFlow (l.indent + 1) l.cursor
  return { l.emit (.scalar .plain (String.ofList text)) with cursor, keyAllowed := broken }

/-- A quoted scalar. -/
def quoted? (l : Lexer) (double : Bool) : Option Lexer :=
  l.content? fun c => (Scalar.quoted? double c).map fun (text, c) =>
    (.scalar (if double then .doubleQuoted else .singleQuoted) (String.ofList text), c)

/-- A block scalar, which never is a key. -/
def block? (l : Lexer) (literal : Bool) : Option Lexer := do
  let l ← l.dropKey?
  let (text, cursor) ← Scalar.block? literal l.indent l.cursor
  let style := if literal then .literal else .folded
  return { l.emit (.scalar style (String.ofList text)) with cursor, keyAllowed := true }

/-- Whether a plain scalar may start here. -/
def startsPlain (l : Lexer) (first : Char) : Bool :=
  match first with
  | '-' => !(l.cursor.rest.drop 1).head?.any isBlank
  | '?' | ':' => !l.inFlow && !l.cursor.isOpenAt 1
  | c =>
    !(isBlank c || isBreak c || c ∈ [',', '[', ']', '\x7b', '\x7d', '#', '&', '*', '!', '|', '>',
      '\'', '"', '%', '@', '\x60'])

/-- The token that a character starts. -/
def step? (l : Lexer) (first : Char) : Option Lexer :=
  if l.cursor.column = 0 ∧ first = '%' then do
    let l ← l.endBlocks?
    let (t, cursor) ← Tag.directive? l.cursor
    return { l.emit t with cursor }
  else if l.cursor.isAtMark '-' then do
    let l ← l.endBlocks?
    return { l.emit .documentStart with cursor := l.cursor.skip 3 }
  else if l.cursor.isAtMark '.' then do
    let l ← l.endBlocks?
    return { l.emit .documentEnd with cursor := l.cursor.skip 3 }
  else match first with
    | '[' => l.openFlow? .flowSequenceStart
    | '\x7b' => l.openFlow? .flowMappingStart
    | ']' => l.closeFlow? .flowSequenceEnd
    | '\x7d' => l.closeFlow? .flowMappingEnd
    | ',' => l.indicator? 1 .flowEntry true
    | '*' => l.content? fun c => (Tag.anchorName? (c.skip 1)).map fun (name, c) => (.alias name, c)
    | '&' => l.content? fun c => (Tag.anchorName? (c.skip 1)).map fun (name, c) => (.anchor name, c)
    | '!' => l.content? (Tag.tag? l.inFlow)
    | '\'' => l.quoted? false
    | '"' => l.quoted? true
    | first =>
      if first = '-' && l.cursor.isOpenAt 1 then l.blockEntry?
      else if first = '?' && (l.inFlow || l.cursor.isOpenAt 1) then l.explicitKey?
      else if first = ':' && (l.inFlow || l.cursor.isOpenAt 1) then l.value?
      else if first = '|' && !l.inFlow then l.block? true
      else if first = '>' && !l.inFlow then l.block? false
      else if l.startsPlain first then l.plain?
      else none

/-- All tokens from here to the end; `fuel` bounds their number. -/
def run? : Nat → Lexer → Option (List Token)
  | 0, _ => none
  | fuel + 1, l => do
    let l ← (skipToToken (l.cursor.rest.length + 1) l).dropStaleKeys?
    let l := l.closeBlocks l.cursor.column
    match l.cursor.rest with
    | [] =>
      let l ← l.endBlocks?
      return l.tokens.reverse
    | first :: _ => run? fuel (← l.step? first)

end Lexer

/-- The tokens of a text. -/
def tokens? (text : String) : Option (List Token) :=
  let chars := text.toList
  if chars.all isAllowed then Lexer.run? (chars.length + 1) { cursor := { rest := chars } }
  else none

end Subscription.Yaml
