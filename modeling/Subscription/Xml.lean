import Subscription.Text.Digits
import Subscription.Wire.Reader

/-! XML 1.0 as a receiver reads it, from the characters of a document to the nesting of its
elements. Document types, comments, processing instructions and CDATA sections are refused; no wire
form has any. -/

namespace Subscription.Xml

open Wire.Reader (after? many)

/-! Characters -/

/-- Whether the code of a character lies in one of some ranges. -/
def within (ranges : List (Nat × Nat)) (c : Char) : Bool :=
  ranges.any fun (low, high) => low ≤ c.toNat && c.toNat ≤ high

/-- The characters that may occur in a document. -/
def isChar (c : Char) : Bool :=
  c = '\t' || c = '\n' || c = '\r' ||
    within [(0x20, 0xd7ff), (0xe000, 0xfffd), (0x10000, 0x10ffff)] c

def isBlank (c : Char) : Bool :=
  c = ' ' || c = '\t' || c = '\n' || c = '\r'

/-- The characters that may open a name. -/
def opensName (c : Char) : Bool :=
  c = ':' || c = '_' || c.isAlpha || within [(0xc0, 0xd6), (0xd8, 0xf6), (0xf8, 0x2ff),
    (0x370, 0x37d), (0x37f, 0x1fff), (0x200c, 0x200d), (0x2070, 0x218f), (0x2c00, 0x2fef),
    (0x3001, 0xd7ff), (0xf900, 0xfdcf), (0xfdf0, 0xfffd), (0x10000, 0xeffff)] c

/-- The characters that may follow in a name. -/
def inName (c : Char) : Bool :=
  opensName c || c = '-' || c = '.' || c.isDigit ||
    within [(0xb7, 0xb7), (0x300, 0x36f), (0x203f, 0x2040)] c

/-- A text in which every line ends the same way. -/
def lineEnds : List Char → List Char
  | '\r' :: '\n' :: rest => '\n' :: lineEnds rest
  | '\r' :: rest => '\n' :: lineEnds rest
  | c :: rest => c :: lineEnds rest
  | [] => []

/-! References -/

/-- The character of a code, if it may occur. -/
def coded? (base : Nat) (digits : List Char) : Option Char := do
  let code ← if digits.isEmpty then none else Text.number? base digits
  let c := Char.ofNat code
  if c.toNat = code ∧ isChar c then return c else none

/-- The character that a reference stands for, by what it has between `&` and `;`. -/
def reference? : List Char → Option Char
  | ['l', 't'] => some '<'
  | ['g', 't'] => some '>'
  | ['a', 'm', 'p'] => some '&'
  | ['a', 'p', 'o', 's'] => some '\''
  | ['q', 'u', 'o', 't'] => some '"'
  | '#' :: 'x' :: digits => coded? 16 digits
  | '#' :: digits => coded? 10 digits
  | _ => none

/-- A text with its references replaced and its other characters changed, behind the part of a
reference that has been read; `<` does not occur in it. -/
def expand? (change : Char → Char) : Option (List Char) → List Char → Option (List Char)
  | none, [] => some []
  | some _, [] => none
  | none, '&' :: rest => expand? change (some []) rest
  | none, c :: rest => if c = '<' then none else (expand? change none rest).map (change c :: ·)
  | some read, ';' :: rest => do
    let c ← reference? read
    (expand? change none rest).map (c :: ·)
  | some read, c :: rest => expand? change (some (read ++ [c])) rest

/-- A character of an attribute's value, where all blanks are read as spaces. -/
def flatten (c : Char) : Char :=
  if isBlank c then ' ' else c

/-- What is read of characters that are written into an attribute's value as they are. -/
def received (written : List Char) : List Char :=
  (lineEnds written).map flatten

/-- What is read of a text that is written into an attribute's value as it is. -/
def normalize (s : String) : String :=
  String.ofList (received s.toList)

/-! Markup -/

abbrev Attribute := String × String

/-- A tag with its attributes, or the text between two tags as it is spelled. -/
inductive Piece where
  | opening (name : String) (attributes : List Attribute)
  /-- The tag of an element that is closed at once. -/
  | single (name : String) (attributes : List Attribute)
  | closing (name : String)
  | text (spelled : List Char)
deriving DecidableEq

def skipBlanks (text : List Char) : List Char :=
  text.dropWhile isBlank

/-- A name that a text opens with, and what follows it. -/
def name? : List Char → Option (String × List Char)
  | [] => none
  | c :: rest =>
    if opensName c then some (String.ofList (c :: rest.takeWhile inName), rest.dropWhile inName)
    else none

/-- What stands between two quotes of a kind at the start of a text, and what follows them. -/
def quoted? : List Char → Option (List Char × List Char)
  | [] => none
  | quote :: rest =>
    if quote = '"' ∨ quote = '\'' then do
      let behind ← after? [quote] (rest.dropWhile (· ≠ quote))
      return (rest.takeWhile (· ≠ quote), behind)
    else none

/-- An attribute, which a blank sets off from what stands before it, and what follows it. -/
def attribute? : List Char → Option (Attribute × List Char)
  | [] => none
  | c :: text =>
    if isBlank c then do
      let (name, text) ← name? (skipBlanks text)
      let text ← after? ['='] (skipBlanks text)
      let (spelled, rest) ← quoted? (skipBlanks text)
      let value ← expand? flatten none spelled
      return ((name, String.ofList value), rest)
    else none

/-- Whether a text holds the end of a CDATA section, which does not occur outside of one. -/
def endsSection : List Char → Bool
  | ']' :: ']' :: '>' :: _ => true
  | _ :: rest => endsSection rest
  | [] => false

/-- A tag by its end, which tells whether its element is closed at once, and what follows it. -/
def tagEnd? (name : String) (attributes : List Attribute) :
    List Char → Option (Piece × List Char)
  | '>' :: rest => some (.opening name attributes, rest)
  | '/' :: '>' :: rest => some (.single name attributes, rest)
  | _ => none

/-- A piece that a text opens with, and what follows it. -/
def piece? : List Char → Option (Piece × List Char)
  | '<' :: '/' :: text => do
    let (name, text) ← name? text
    let rest ← after? ['>'] (skipBlanks text)
    return (.closing name, rest)
  | '<' :: text => do
    let (name, text) ← name? text
    let (attributes, text) := many attribute? text
    if (attributes.map Prod.fst).Nodup then tagEnd? name attributes (skipBlanks text) else none
  | text => do
    let spelled := text.takeWhile (· ≠ '<')
    if spelled.isEmpty ∨ endsSection spelled then none
    let _ ← expand? id none spelled
    return (.text spelled, text.dropWhile (· ≠ '<'))

/-! Documents -/

/-- Whether a declaration has a version and perhaps an encoding and a standing, in that order. -/
def declares : List Attribute → Bool
  | ("version", version) :: others =>
    (match version.toList with
      | '1' :: '.' :: digits => !digits.isEmpty && digits.all Char.isDigit
      | _ => false) &&
    (match others with
      | [] => true
      | [("encoding", encoding)] => isEncoding encoding
      | [("standalone", standing)] => isStanding standing
      | [("encoding", encoding), ("standalone", standing)] =>
        isEncoding encoding && isStanding standing
      | _ => false)
  | _ => false
where
  isEncoding (encoding : String) : Bool :=
    match encoding.toList with
    | c :: rest => c.isAlpha && rest.all fun c => c.isAlphanum || c = '.' || c = '_' || c = '-'
    | [] => false
  isStanding (standing : String) : Bool :=
    standing = "yes" || standing = "no"

/-- What follows the declaration of a document, which it may be without. -/
def behindDeclaration? (text : List Char) : Option (List Char) :=
  match after? "<?xml".toList text with
  | none => some text
  | some text =>
    let (attributes, text) := many attribute? text
    if declares attributes then after? "?>".toList (skipBlanks text) else none

/-- Whether a piece is nothing but white space. -/
def Piece.isBlank : Piece → Bool
  | .text spelled => spelled.all Xml.isBlank
  | _ => false

/-- Whether pieces close all elements that are open, the innermost first, with nothing behind the
last one. -/
def closes : List String → List Piece → Bool
  | [], rest => rest.all Piece.isBlank
  | _ :: _, [] => false
  | name :: outer, .closing last :: rest => last = name && closes outer rest
  | name :: outer, .opening inner _ :: rest => closes (inner :: name :: outer) rest
  | name :: outer, _ :: rest => closes (name :: outer) rest

/-- Whether pieces are one element, with white space around it. -/
def isElement : List Piece → Bool
  | [] => false
  | .opening name _ :: rest => closes [name] rest
  | .single _ _ :: rest => closes [] rest
  | piece :: rest => piece.isBlank && isElement rest

/-- The pieces of a document, which has to be well-formed. -/
def read? (document : String) : Option (List Piece) := do
  if !document.toList.all isChar then none
  let text ← behindDeclaration? (lineEnds document.toList)
  match many piece? text with
  | (pieces, []) => if isElement pieces then return pieces else none
  | _ => none

/-- The property and the value of a statement's tag. -/
def Piece.statement? : Piece → Option (Option String × Option String)
  | .opening "Statement" attributes | .single "Statement" attributes =>
    some (attributes.lookup "Property", attributes.lookup "Value")
  | _ => none

/-- The properties and values of a document's statements, in their order. -/
def statements? (document : String) : Option (List (Option String × Option String)) := do
  return (← read? document).filterMap Piece.statement?

end Subscription.Xml
