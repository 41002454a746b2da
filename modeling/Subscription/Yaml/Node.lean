import Subscription.Yaml.Lexer

/-! YAML documents as trees of nodes, with aliases still by name. -/

namespace Subscription.Yaml

/-- A node of a document, whose anchors are of a type `α`; an octet of a tag stands as the character
of its number. -/
inductive Node (α : Type) where
  | alias (anchor : α)
  | scalar (anchor : Option α) (tag : Option (List Char)) (style : Style) (text : String)
  | sequence (anchor : Option α) (tag : Option (List Char)) (items : List (Node α))
  | mapping (anchor : Option α) (tag : Option (List Char)) (pairs : List (Node α × Node α))

namespace Node

/-- The node that stands where nothing is written. -/
def empty : Node String :=
  .scalar none none .plain ""

/-- Handles and what they abbreviate. -/
abbrev Shorthands := List (List Char × List Char)

/-- The shorthands that every document starts with. -/
def standardShorthands : Shorthands :=
  [(['!'], ['!']), (['!', '!'], "tag:yaml.org,2002:".toList)]

/-- The anchor and the tag of a node, each at most once and in either order. -/
def properties? (shorthands : Shorthands) (ts : List Token) :
    Option (Option String × Option (List Char) × List Token) := do
  let (anchor, tag, rest) := match ts with
    | .anchor name :: .tag handle suffix :: rest => (some name, some (handle, suffix), rest)
    | .tag handle suffix :: .anchor name :: rest => (some name, some (handle, suffix), rest)
    | .anchor name :: rest => (some name, none, rest)
    | .tag handle suffix :: rest => (none, some (handle, suffix), rest)
    | rest => (none, none, rest)
  match tag with
  | none => return (anchor, none, rest)
  | some ([], whole) => return (anchor, some whole, rest)
  | some (handle, suffix) =>
    let expansion ← shorthands.lookup handle
    return (anchor, some (expansion ++ suffix), rest)

mutual

/-- A node and what follows. Block collections need `block`, and sequences that have no indentation
of their own need `indentless`. -/
def node? (tags : Shorthands) (block indentless : Bool) :
    Nat → List Token → Option (Node String × List Token)
  | 0, _ => none
  | _ + 1, .alias name :: rest => some (.alias name, rest)
  | fuel + 1, ts => do
    let (anchor, tag, rest) ← properties? tags ts
    match rest, block, indentless with
    | .blockEntry :: _, _, true =>
      let (items, rest) ← indentless? tags fuel rest
      return (.sequence anchor tag items, rest)
    | .scalar style text :: rest, _, _ =>
      -- On a scalar, a lone exclamation mark stands for having no tag.
      return (.scalar anchor (if tag = some ['!'] then none else tag) style text, rest)
    | .flowSequenceStart :: rest, _, _ =>
      let (items, rest) ← flowItems? tags true fuel rest
      return (.sequence anchor tag items, rest)
    | .flowMappingStart :: rest, _, _ =>
      let (pairs, rest) ← flowPairs? tags true fuel rest
      return (.mapping anchor tag pairs, rest)
    | .blockSequenceStart :: rest, true, _ =>
      let (items, rest) ← blockItems? tags fuel rest
      return (.sequence anchor tag items, rest)
    | .blockMappingStart :: rest, true, _ =>
      let (pairs, rest) ← blockPairs? tags fuel rest
      return (.mapping anchor tag pairs, rest)
    | rest, _, _ =>
      -- Properties alone make an empty scalar.
      if anchor.isSome || tag.isSome then return (.scalar anchor tag .plain "", rest) else none

/-- The entries of a block sequence up to its end. -/
def blockItems? (tags : Shorthands) :
    Nat → List Token → Option (List (Node String) × List Token)
  | 0, _ => none
  | _ + 1, .blockEnd :: rest => some ([], rest)
  | fuel + 1, .blockEntry :: rest => do
    let (item, rest) ← match rest with
      | .blockEntry :: _ | .blockEnd :: _ => some (empty, rest)
      | _ => node? tags true false fuel rest
    let (items, rest) ← blockItems? tags fuel rest
    return (item :: items, rest)
  | _, _ => none

/-- The entries of a sequence at the indentation of the mapping around it. -/
def indentless? (tags : Shorthands) :
    Nat → List Token → Option (List (Node String) × List Token)
  | 0, _ => none
  | fuel + 1, .blockEntry :: rest => do
    let (item, rest) ← match rest with
      | .blockEntry :: _ | .key :: _ | .value :: _ | .blockEnd :: _ => some (empty, rest)
      | _ => node? tags true false fuel rest
    let (items, rest) ← indentless? tags fuel rest
    return (item :: items, rest)
  | _ + 1, rest => some ([], rest)

/-- The pairs of a block mapping up to its end. -/
def blockPairs? (tags : Shorthands) :
    Nat → List Token → Option (List (Node String × Node String) × List Token)
  | 0, _ => none
  | _ + 1, .blockEnd :: rest => some ([], rest)
  | fuel + 1, .key :: rest => do
    let (key, rest) ← blockPart? tags fuel rest
    let (value, rest) ← match rest with
      | .value :: rest => blockPart? tags fuel rest
      | _ => some (empty, rest)
    let (pairs, rest) ← blockPairs? tags fuel rest
    return ((key, value) :: pairs, rest)
  | _, _ => none

/-- A key or a value of a block mapping, which may be left out. -/
def blockPart? (tags : Shorthands) : Nat → List Token → Option (Node String × List Token)
  | 0, _ => none
  | fuel + 1, ts =>
    match ts with
    | .key :: _ | .value :: _ | .blockEnd :: _ => some (empty, ts)
    | _ => node? tags true true fuel ts

/-- The items of a bracketed sequence up to its end, the first without a comma before it. -/
def flowItems? (tags : Shorthands) (first : Bool) :
    Nat → List Token → Option (List (Node String) × List Token)
  | 0, _ => none
  | _ + 1, .flowSequenceEnd :: rest => some ([], rest)
  | fuel + 1, ts => do
    let ts ← match first, ts with
      | true, _ => some ts
      | false, .flowEntry :: rest => some rest
      | false, _ => none
    match ts with
    | .flowSequenceEnd :: rest => return ([], rest)
    | .key :: rest =>
      let (pair, rest) ← flowPair? tags fuel rest
      let (items, rest) ← flowItems? tags false fuel rest
      return (.mapping none none [pair] :: items, rest)
    | ts =>
      let (item, rest) ← node? tags false false fuel ts
      let (items, rest) ← flowItems? tags false fuel rest
      return (item :: items, rest)

/-- A pair that stands for a mapping of its own among the items of a bracketed sequence. -/
def flowPair? (tags : Shorthands) :
    Nat → List Token → Option ((Node String × Node String) × List Token)
  | 0, _ => none
  | fuel + 1, ts => do
    let (key, rest) ← match ts with
      -- A key that is left out takes the token in its place along.
      | .value :: rest | .flowEntry :: rest | .flowSequenceEnd :: rest => some (empty, rest)
      | _ => node? tags false false fuel ts
    let (value, rest) ← match rest with
      | .value :: .flowEntry :: _ | .value :: .flowSequenceEnd :: _ => some (empty, rest.tail)
      | .value :: rest => node? tags false false fuel rest
      | _ => some (empty, rest)
    return ((key, value), rest)

/-- The pairs of a braced mapping up to its end, the first without a comma before it. -/
def flowPairs? (tags : Shorthands) (first : Bool) :
    Nat → List Token → Option (List (Node String × Node String) × List Token)
  | 0, _ => none
  | _ + 1, .flowMappingEnd :: rest => some ([], rest)
  | fuel + 1, ts => do
    let ts ← match first, ts with
      | true, _ => some ts
      | false, .flowEntry :: rest => some rest
      | false, _ => none
    match ts with
    | .flowMappingEnd :: rest => return ([], rest)
    | .key :: rest =>
      let (key, rest) ← match rest with
        | .value :: _ | .flowEntry :: _ | .flowMappingEnd :: _ => some (empty, rest)
        | _ => node? tags false false fuel rest
      let (value, rest) ← match rest with
        | .value :: .flowEntry :: _ | .value :: .flowMappingEnd :: _ => some (empty, rest.tail)
        | .value :: rest => node? tags false false fuel rest
        | _ => some (empty, rest)
      let (pairs, rest) ← flowPairs? tags false fuel rest
      return ((key, value) :: pairs, rest)
    | ts =>
      -- A node without a mark is a key without a value.
      let (key, rest) ← node? tags false false fuel ts
      let (pairs, rest) ← flowPairs? tags false fuel rest
      return ((key, empty) :: pairs, rest)

end

/-- The shorthands that directives add, each handle and the version at most once. -/
def directives? (hasVersion : Bool) (added : Shorthands) :
    List Token → Option (Shorthands × List Token)
  | .version major minor :: rest =>
    if hasVersion || major ≠ 1 || (minor ≠ 1 ∧ minor ≠ 2) then none
    else directives? true added rest
  | .tagShorthand handle expansion :: rest =>
    if added.any (·.1 == handle) then none
    else directives? hasVersion ((handle, expansion) :: added) rest
  | rest => some (added ++ standardShorthands, rest)

/-- The one document of a text, or `none` within the result when the text has none. -/
def ofTokens? (ts : List Token) : Option (Option (Node String)) := do
  let fuel := 2 * ts.length + 3
  let document? (tags : Shorthands) (ts : List Token) : Option (Node String × List Token) :=
    match ts with
    | [] | .documentStart :: _ | .documentEnd :: _ | .version _ _ :: _ | .tagShorthand _ _ :: _ =>
      some (empty, ts)
    | _ => node? tags true false fuel ts
  let (root, rest) ← match ts with
    | [] => return none
    | .documentStart :: _ | .version _ _ :: _ | .tagShorthand _ _ :: _ => do
      let (tags, rest) ← directives? false [] ts
      match rest with
      | .documentStart :: rest => document? tags rest
      | _ => none
    | _ => node? standardShorthands true false fuel ts
  -- Marks of the end may repeat, but no second document may follow.
  if rest.all (· == .documentEnd) then return some root else none

end Node

end Subscription.Yaml
