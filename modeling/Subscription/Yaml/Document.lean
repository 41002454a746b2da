import Subscription.Yaml.Node

/-! Documents whose anchors are numbered, so that an alias leads to a node. -/

namespace Subscription.Yaml

namespace Node

/-- The numbers of the anchor names seen so far, the latest first. -/
abbrev Anchors := List (String × Nat)

/-- How many different names have been seen. -/
def Anchors.count (seen : Anchors) : Nat :=
  (seen.map (·.1)).eraseDups.length

/-- A name that is seen takes the count of different names before it as its number. -/
def Anchors.see (seen : Anchors) : Option String → Option Nat × Anchors
  | some name => (some seen.count, (name, seen.count) :: seen)
  | none => (none, seen)

mutual

/-- A node with numbers for anchors, and the names seen up to its end; an alias of any other name is
refused. -/
def numbered? (seen : Anchors) : Node String → Option (Node Nat × Anchors)
  | .alias name => (seen.lookup name).map fun number => (.alias number, seen)
  | .scalar anchor tag style text =>
    let (number, seen) := seen.see anchor
    some (.scalar number tag style text, seen)
  | .sequence anchor tag items => do
    let (number, seen) := seen.see anchor
    let (items, seen) ← numberedItems? seen items
    return (.sequence number tag items, seen)
  | .mapping anchor tag pairs => do
    let (number, seen) := seen.see anchor
    let (pairs, seen) ← numberedPairs? seen pairs
    return (.mapping number tag pairs, seen)

/-- The items of a sequence with numbers for anchors. -/
def numberedItems? (seen : Anchors) : List (Node String) → Option (List (Node Nat) × Anchors)
  | [] => some ([], seen)
  | item :: rest => do
    let (item, seen) ← numbered? seen item
    let (rest, seen) ← numberedItems? seen rest
    return (item :: rest, seen)

/-- The pairs of a mapping with numbers for anchors. -/
def numberedPairs? (seen : Anchors) :
    List (Node String × Node String) → Option (List (Node Nat × Node Nat) × Anchors)
  | [] => some ([], seen)
  | (key, value) :: rest => do
    let (key, seen) ← numbered? seen key
    let (value, seen) ← numbered? seen value
    let (rest, seen) ← numberedPairs? seen rest
    return ((key, value) :: rest, seen)

end

/-- The anchor of a node. -/
def anchor? {α : Type} : Node α → Option α
  | .alias _ => none
  | .scalar anchor _ _ _ => anchor
  | .sequence anchor _ _ => anchor
  | .mapping anchor _ _ => anchor

mutual

/-- A node and all nodes in it, in the order they start in. -/
def all {α : Type} : Node α → List (Node α)
  | .sequence anchor tag items => .sequence anchor tag items :: allItems items
  | .mapping anchor tag pairs => .mapping anchor tag pairs :: allPairs pairs
  | leaf => [leaf]

/-- All nodes among the items of a sequence. -/
def allItems {α : Type} : List (Node α) → List (Node α)
  | [] => []
  | item :: rest => item.all ++ allItems rest

/-- All nodes among the pairs of a mapping. -/
def allPairs {α : Type} : List (Node α × Node α) → List (Node α)
  | [] => []
  | (key, value) :: rest => key.all ++ value.all ++ allPairs rest

end

/-- How many marks a node takes: a collection has one at its end as well. -/
def markCount {α : Type} : Node α → Nat
  | .sequence _ _ _ | .mapping _ _ _ => 2
  | _ => 1

end Node

/-- A document with a way from each alias to its node. -/
structure Document where
  root : Node Nat
  /-- The anchored nodes by number, the latest first, which takes its number over. -/
  anchored : List (Nat × Node Nat)
  /-- How many aliases may be followed in all, so that their repetition stays bounded. -/
  aliasLimit : Nat

namespace Document

/-- The document of a numbered node. -/
def ofNode (root : Node Nat) : Document where
  root
  anchored := (root.all.filterMap fun n => n.anchor?.map (·, n)).reverse
  aliasLimit := 100 * root.all.foldl (fun count n => count + n.markCount) 0

/-- The one document of a text, or `none` within the result when the text has none. -/
def read? (text : String) : Option (Option Document) := do
  let tokens ← tokens? text
  match ← Node.ofTokens? tokens with
  | none => return none
  | some root =>
    let (root, _) ← root.numbered? []
    return some (ofNode root)

end Document

end Subscription.Yaml
