import Subscription.Predicate

/-! The wire form of a predicate, an XML document without blanks between its tags. -/

namespace Subscription

namespace Wire

/-- A character of an attribute value, as an entity where markup could be mistaken for it. -/
def escapeChar : Char → List Char
  | '<' => "&lt;".toList
  | '>' => "&gt;".toList
  | '&' => "&amp;".toList
  | '\'' => "&apos;".toList
  | '"' => "&quot;".toList
  | c => [c]

/-- A value with markup written as entities. -/
def escape (s : String) : List Char :=
  s.toList.flatMap escapeChar

/-- An attribute of an element, behind the blank that sets it off. -/
def writeAttribute (name value : String) : List Char :=
  ' ' :: name.toList ++ "=\"".toList ++ escape value ++ ['"']

/-- A statement, with a value attribute exactly when it has a value. -/
def writeStatement (s : Statement) : List Char :=
  "<Statement".toList ++ writeAttribute "Property" s.token ++
    writeAttribute "Operator" (toString s.operator.code) ++
    (s.value?.elim [] (writeAttribute "Value")) ++ "/>".toList

/-- A group, closed at once when it has no statements. -/
def writeGroup : Group → List Char
  | [] => "<Group/>".toList
  | statements => "<Group>".toList ++ statements.flatMap writeStatement ++ "</Group>".toList

/-- The document without its declaration. -/
def writeGroups (groups : List Group) : List Char :=
  "<Filter>".toList ++ groups.flatMap writeGroup ++ "</Filter>".toList

/-- What names the version of XML at the start of a document. -/
def declaration : List Char :=
  "<?xml version=\"1.0\"?>".toList

/-- Whether a character is white space in Unicode. -/
def isSpace (c : Char) : Bool :=
  ('\t' ≤ c && c ≤ '\r') || c = ' ' || c = '\u0085' || c = '\u00a0' || c = '\u1680' ||
    ('\u2000' ≤ c && c ≤ '\u200a') || c = '\u2028' || c = '\u2029' || c = '\u202f' ||
    c = '\u205f' || c = '\u3000'

/-- What follows the first `?>` of a text. -/
def behindInstruction? : List Char → Option (List Char)
  | '?' :: '>' :: rest => some rest
  | _ :: rest => behindInstruction? rest
  | [] => none

/-- A document without the declaration that it opens with and the white space behind that. -/
def stripDeclaration (document : List Char) : List Char :=
  if "<?xml".toList.isPrefixOf document then
    match behindInstruction? document with
    | some rest => rest.dropWhile isSpace
    | none => document
  else document

end Wire

/-- The wire form of a predicate, which the empty predicate does not have. -/
def Predicate.toXml? (declared : Bool) (p : Predicate) : Option String :=
  if p.isEmpty then none
  else
    -- The declaration is always written, and taken off again where it is not wanted.
    let document := Wire.declaration ++ Wire.writeGroups p.groups
    some (String.ofList (if declared then document else Wire.stripDeclaration document))

end Subscription
