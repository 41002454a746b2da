import Subscription.Yaml.Document

/-! Reading typed values from YAML documents, with aliases followed wherever a value stands. -/

namespace Subscription.Yaml

/-- A reading that may fail and counts the aliases that it follows. -/
abbrev Decode (α : Type) := StateT Nat Option α

namespace Decode

/-- The value of a whole text: of its document, or the default of a text without one. -/
def run? {α : Type} (decode : Document → Node Nat → Decode α) (default : α) (text : String) :
    Option α := do
  match ← Document.read? text with
  | none => return default
  | some d => (decode d d.root).run' 0

/-- The node that an alias leads to, or a node itself. -/
def follow (d : Document) : Node Nat → Decode (Node Nat)
  | .alias number => do
    let followed ← get
    if d.aliasLimit ≤ followed then failure
    set (followed + 1)
    (d.anchored.lookup number : Option (Node Nat))
  | n => return n

/-- Any scalar as text. -/
def text (d : Document) (n : Node Nat) : Decode String := do
  let .scalar _ _ _ text ← follow d n | failure
  return text

/-- The words for null. -/
def isNull (text : String) : Bool :=
  text = "null" || text = "Null" || text = "NULL" || text = "~"

/-- A tag of the standard's own. -/
def standardTag (name : String) : List Char :=
  "tag:yaml.org,2002:".toList ++ name.toList

/-- Whether a node holds something: an empty or null plain scalar does not. -/
def isPresent : Node Nat → Decode Bool
  | .scalar _ none .plain text => return !text.isEmpty && !isNull text
  | .scalar _ (some tag) .plain text =>
    -- Under the tag of null only null may stand.
    if tag ≠ standardTag "null" then return true
    else if isNull text then return false else failure
  | _ => return true

/-- Text, or nothing where the node holds nothing. -/
def text? (d : Document) (n : Node Nat) : Decode (Option String) := do
  let n ← follow d n
  if ← isPresent n then some <$> text d n else return none

/-- The scalars that are read by what they spell: plain ones, and literal blocks of a tag. -/
def spelling (d : Document) (name : String) (n : Node Nat) : Decode String := do
  let .scalar _ tag style text ← follow d n | failure
  if style = .plain ∨ (style = .literal ∧ tag = some (standardTag name)) then return text
  failure

/-- A truth value in lower case, upper case or capitalised. -/
def bool (d : Document) (n : Node Nat) : Decode Bool := do
  let word ← spelling d "bool" n
  if word = "true" ∨ word = "True" ∨ word = "TRUE" then return true
  else if word = "false" ∨ word = "False" ∨ word = "FALSE" then return false
  else failure

/-- The number that digits of a base spell, which needs one at least. -/
def digits? (base : Nat) (cs : List Char) : Option Nat :=
  if cs.isEmpty then none else Text.number? base cs

/-- A natural number in decimal, without leading zeros, or in another base behind its mark. -/
def natural? (word : String) : Option Nat :=
  let unsigned := match word.toList with
    | '+' :: rest => rest
    | cs => cs
  match unsigned with
  | '0' :: 'x' :: rest => digits? 16 rest
  | '0' :: 'o' :: rest => digits? 8 rest
  | '0' :: 'b' :: rest => digits? 2 rest
  | ['0'] => some 0
  | '0' :: _ => none
  | cs => digits? 10 cs

/-- A natural number of sixty-four bits. -/
def size (d : Document) (n : Node Nat) : Decode Nat := do
  let word ← spelling d "int" n
  let value ← (natural? word : Option Nat)
  if value ≤ 0xffffffffffffffff then return value else failure

/-- The pairs of a mapping; an empty plain scalar stands for having none. -/
def pairs (d : Document) (n : Node Nat) : Decode (List (Node Nat × Node Nat)) := do
  match ← follow d n with
  | .mapping _ _ pairs => return pairs
  | .scalar _ _ .plain text => if text.isEmpty then return [] else failure
  | _ => failure

/-- The items of a sequence; an empty plain scalar stands for having none. -/
def items (d : Document) (n : Node Nat) : Decode (List (Node Nat)) := do
  match ← follow d n with
  | .sequence _ _ items => return items
  | .scalar _ _ .plain text => if text.isEmpty then return [] else failure
  | _ => failure

/-- A mapping with entries of one kind, in order. -/
def entries {α : Type} (d : Document) (entry : Node Nat → Decode α) (n : Node Nat) :
    Decode (List (String × α)) := do
  (← pairs d n).mapM fun (key, value) => do return (← text d key, ← entry value)

/-- A record: each known field is read into `start` at most once, and all others are passed over. -/
def record {α : Type} (d : Document) (fields : List (String × (α → Node Nat → Decode α)))
    (start : α) (n : Node Nat) : Decode α := do
  let mut read := start
  let mut seen : List String := []
  for (key, value) in ← pairs d n do
    let name ← text d key
    match fields.lookup name with
    | none => pure ()
    | some field =>
      if seen.contains name then failure
      seen := name :: seen
      read ← field read value
  return read

/-- The name that a node's tag gives an alternative: what an exclamation mark sets off, as UTF-8. -/
def alternative? : Node Nat → Option String
  | .scalar _ (some ('!' :: name)) _ _ | .sequence _ (some ('!' :: name)) _
  | .mapping _ (some ('!' :: name)) _ =>
    String.fromUTF8? ⟨(name.map fun c => c.toNat.toUInt8).toArray⟩
  | _ => none

/-- The content of an alternative without content, an empty or null plain scalar. -/
def unit (d : Document) (n : Node Nat) : Decode Unit := do
  let .scalar _ _ .plain text ← follow d n | failure
  if text.isEmpty ∨ isNull text then return () else failure

/-- A choice of alternatives, some of which are words and the others have content that is read.

Under a tag the alternative is the one that the tag names, and the node is its content. Without a
tag only a word can be read. -/
def choice {α : Type} (d : Document) (words : List (String × α))
    (others : List (String × (Node Nat → Decode α))) (n : Node Nat) : Decode α := do
  let n ← follow d n
  match alternative? n, n with
  | some name, content =>
    match words.lookup name, others.lookup name with
    | some chosen, _ => do
      unit d content
      return chosen
    | none, some read => read content
    | none, none => failure
  | none, .scalar _ _ _ name => (words.lookup name : Option α)
  | none, _ => failure

/-- A choice that is itself the content of an alternative: its node has no second tag to name
another one, so only a word can be read. -/
def nestedChoice {α : Type} (words : List (String × α)) : Node Nat → Decode α
  | .scalar _ _ _ name => if name.isEmpty then failure else (words.lookup name : Option α)
  | _ => failure

end Decode

end Subscription.Yaml
