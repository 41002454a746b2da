import Subscription.Text.Digits
import Subscription.Yaml.Cursor

/-! Reading scalars: plain and quoted text folded over lines, and blocks of indented lines. -/

namespace Subscription.Yaml

/-- The blanks and breaks between two runs of a scalar. -/
structure Gap where
  /-- Blanks, as long as no break has followed. -/
  blanks : List Char := []
  /-- Whether a break has been passed. -/
  broken : Bool := false
  /-- The first break. -/
  first : List Char := []
  /-- All later breaks. -/
  later : List Char := []

/-- What a gap adds to a scalar: one break becomes a blank, and each further one stays. -/
def Gap.text (g : Gap) : List Char :=
  if !g.broken then g.blanks
  else if g.first = ['\n'] then (if g.later.isEmpty then [' '] else g.later)
  else g.first ++ g.later

namespace Scalar

/-- A gap and what follows it; past a break no tab may stand left of the indentation. -/
def gap? (indent : Int) : Nat → Gap → Cursor → Option (Gap × Cursor)
  | 0, g, c => some (g, c)
  | fuel + 1, g, c =>
    match c.rest with
    | next :: _ =>
      if isBlank next then
        if !g.broken then gap? indent fuel { g with blanks := g.blanks ++ [next] } (c.skip 1)
        else if c.column < indent ∧ next = '\t' then none
        else gap? indent fuel g (c.skip 1)
      else if isBreak next then
        let (kept, c) := c.readBreak
        if g.broken then gap? indent fuel { g with later := g.later ++ kept } c
        else gap? indent fuel { broken := true, first := kept } c
      else some (g, c)
    | [] => some (g, c)

/-! Plain scalars -/

/-- The characters that end a plain scalar inside brackets. -/
def isFlowIndicator (c : Char) : Bool :=
  c = ',' || c = '[' || c = ']' || c = '\x7b' || c = '\x7d'

/-- Whether a text ends or opens with a blank or a break. -/
def isOpen : List Char → Bool
  | next :: _ => isBlank next || isBreak next
  | [] => true

/-- Whether a text opens with a character that may not follow a colon inside brackets. -/
def opensWithIndicator : List Char → Bool
  | next :: _ => next = '?' || isFlowIndicator next
  | [] => false

/-- The characters of a plain scalar up to a gap or an indicator. -/
def plainRun? (inFlow : Bool) : List Char → Option (List Char)
  | [] => some []
  | c :: rest =>
    if isBlank c || isBreak c then some []
    else if inFlow && c = ':' && opensWithIndicator rest then none
    else if (c = ':' && isOpen rest) || (inFlow && isFlowIndicator c) then some []
    else (plainRun? inFlow rest).map (c :: ·)

/-- The rest of a plain scalar, whether a break ends it, and what follows. -/
def plainFrom? (inFlow : Bool) (indent : Int) :
    Nat → List Char → Gap → Cursor → Option (List Char × Bool × Cursor)
  | 0, text, g, c => some (text, g.broken, c)
  | fuel + 1, text, g, c =>
    -- A gap before a comment or a mark belongs to no scalar.
    if c.isAtDocumentMark || c.head? == some '#' then some (text, g.broken, c)
    else do
      let run ← plainRun? inFlow c.rest
      let (text, g) := if run.isEmpty then (text, g) else (text ++ g.text ++ run, {})
      let c := c.skip run.length
      if !c.isOpenAt 0 || c.rest.isEmpty then return (text, g.broken, c)
      let (g, c) ← gap? indent c.rest.length g c
      if !inFlow && c.column < indent then return (text, g.broken, c)
      plainFrom? inFlow indent fuel text g c

/-- A plain scalar that starts here, whether a break ends it, and what follows. -/
def plain? (inFlow : Bool) (indent : Int) (c : Cursor) : Option (List Char × Bool × Cursor) :=
  plainFrom? inFlow indent (c.rest.length + 1) [] {} c

/-! Quoted scalars -/

/-- A character by a code point of so many hexadecimal digits, which no surrogate has. -/
def codePoint? (digits : Nat) (cs : List Char) : Option Char := do
  if cs.length < digits then none
  let n ← Text.number? 16 (cs.take digits)
  if n.isValidChar then return Char.ofNat n else none

/-- The character of an escape behind its backslash, and how many characters spell it. -/
def escape? : List Char → Option (Char × Nat)
  | '0' :: _ => some ('\x00', 1)
  | 'a' :: _ => some ('\x07', 1)
  | 'b' :: _ => some ('\x08', 1)
  | 't' :: _ => some ('\t', 1)
  | '\t' :: _ => some ('\t', 1)
  | 'n' :: _ => some ('\n', 1)
  | 'v' :: _ => some ('\x0b', 1)
  | 'f' :: _ => some ('\x0c', 1)
  | 'r' :: _ => some ('\r', 1)
  | 'e' :: _ => some ('\x1b', 1)
  | ' ' :: _ => some (' ', 1)
  | '"' :: _ => some ('"', 1)
  | '/' :: _ => some ('/', 1)
  | '\\' :: _ => some ('\\', 1)
  | 'N' :: _ => some ('\u0085', 1)
  | '_' :: _ => some ('\u00a0', 1)
  | 'L' :: _ => some ('\u2028', 1)
  | 'P' :: _ => some ('\u2029', 1)
  | 'x' :: rest => (codePoint? 2 rest).map (·, 3)
  | 'u' :: rest => (codePoint? 4 rest).map (·, 5)
  | 'U' :: rest => (codePoint? 8 rest).map (·, 9)
  | _ => none

/-- A quoted run up to a gap or the quote, and whether an escaped break ends it. -/
def quotedRun? (double : Bool) :
    Nat → List Char → Cursor → Option (List Char × Bool × Cursor)
  | 0, run, c => some (run.reverse, false, c)
  | fuel + 1, run, c =>
    match double, c.rest with
    | false, '\'' :: '\'' :: _ => quotedRun? double fuel ('\'' :: run) (c.skip 2)
    | false, '\'' :: _ => some (run.reverse, false, c)
    | true, '"' :: _ => some (run.reverse, false, c)
    | true, '\\' :: rest =>
      if rest.head?.any isBreak then some (run.reverse, true, (c.skip 1).readBreak.2)
      else do
        let (meant, length) ← escape? rest
        quotedRun? double fuel (meant :: run) (c.skip (1 + length))
    | _, next :: _ =>
      if isBlank next || isBreak next then some (run.reverse, false, c)
      else quotedRun? double fuel (next :: run) (c.skip 1)
    | _, [] => some (run.reverse, false, c)

/-- The rest of a quoted scalar and what follows its closing quote. -/
def quotedFrom? (double : Bool) : Nat → List Char → Cursor → Option (List Char × Cursor)
  | 0, _, _ => none
  | fuel + 1, text, c =>
    -- A document may not end inside quotes, nor may the text.
    if c.isAtDocumentMark || c.rest.isEmpty then none
    else do
      let (run, continued, c) ← quotedRun? double (c.rest.length + 1) [] c
      let text := text ++ run
      if c.head? = some (if double then '"' else '\'') then return (text, c.skip 1)
      let (g, c) ← gap? 0 c.rest.length { broken := continued } c
      quotedFrom? double fuel (text ++ g.text) c

/-- A quoted scalar whose opening quote is here, and what follows. -/
def quoted? (double : Bool) (c : Cursor) : Option (List Char × Cursor) :=
  quotedFrom? double (c.rest.length + 1) [] (c.skip 1)

/-! Block scalars -/

/-- What becomes of the breaks that end a block. -/
inductive Chomping where
  | strip
  | clip
  | keep
deriving DecidableEq

def chomping? : Char → Option Chomping
  | '-' => some .strip
  | '+' => some .keep
  | _ => none

/-- An indentation of one to nine places, where a digit gives one. -/
def increment? (cs : List Char) : Option (Nat × Nat) :=
  match cs with
  | d :: _ =>
    if d = '0' then none
    else if d.isDigit then some (d.toNat - '0'.toNat, 1)
    else some (0, 0)
  | [] => some (0, 0)

/-- The chomping and indentation marks behind a block's indicator, in either order. -/
def header? (c : Cursor) : Option (Chomping × Nat × Cursor) := do
  match c.head?.bind chomping? with
  | some chomping =>
    let c := c.skip 1
    let (increment, used) ← increment? c.rest
    return (chomping, increment, c.skip used)
  | none =>
    let (increment, used) ← increment? c.rest
    let c := c.skip used
    match (if used = 0 then none else c.head?.bind chomping?) with
    | some chomping => return (chomping, increment, c.skip 1)
    | none => return (.clip, increment, c)

/-- Empty lines and the indentation of the next one; an indentation of zero is still unknown. -/
def blockBreaks? (indent : Nat) :
    Nat → Nat → List Char → Cursor → Option (Nat × List Char × Cursor)
  | 0, widest, breaks, c => some (widest, breaks, c)
  | fuel + 1, widest, breaks, c =>
    let spaces := (c.rest.takeWhile (· = ' ')).length
    let c := c.skip (if indent = 0 then spaces else min spaces (indent - c.column))
    let widest := max widest c.column
    match c.rest with
    | next :: _ =>
      if next = '\t' ∧ (indent = 0 ∨ c.column < indent) then none
      else if isBreak next then
        let (kept, c) := c.readBreak
        blockBreaks? indent fuel widest (breaks ++ kept) c
      else some (widest, breaks, c)
    | [] => some (widest, breaks, c)

/-- The lines of a block, its last break and the empty lines behind it, and what follows. -/
def blockLines? (literal : Bool) (indent : Nat) :
    Nat → List Char → List Char → List Char → Bool → Cursor →
      Option (List Char × List Char × List Char × Cursor)
  | 0, text, last, empties, _, c => some (text, last, empties, c)
  | fuel + 1, text, last, empties, wasBlank, c =>
    if c.column ≠ indent ∨ c.rest.isEmpty then some (text, last, empties, c)
    else do
      let blank := c.head?.any isBlank
      -- A folded break joins two lines only when neither is set off by blanks.
      let joint := if !literal && last = ['\n'] && !wasBlank && !blank then
        (if empties.isEmpty then [' '] else [])
      else last
      let line := c.rest.takeWhile (!isBreak ·)
      let (last, c) := (c.skip line.length).readBreak
      let (_, after, c) ← blockBreaks? indent (c.rest.length + 1) 0 [] c
      blockLines? literal indent fuel (text ++ joint ++ empties ++ line) last after blank c

/-- A block scalar whose indicator is here, and what follows. -/
def block? (literal : Bool) (parent : Int) (c : Cursor) : Option (List Char × Cursor) := do
  let (chomping, increment, c) ← header? (c.skip 1)
  let c ← c.endLine?
  let given := if increment = 0 then 0 else (max parent 0).toNat + increment
  let (widest, empties, c) ← blockBreaks? given (c.rest.length + 1) 0 [] c
  let indent := if given = 0 then max (max widest (parent + 1).toNat) 1 else given
  let (text, last, empties, c) ←
    blockLines? literal indent (c.rest.length + 1) [] [] empties false c
  match chomping with
  | .strip => return (text, c)
  | .clip => return (text ++ last, c)
  | .keep => return (text ++ last ++ empties, c)

end Scalar

end Subscription.Yaml
