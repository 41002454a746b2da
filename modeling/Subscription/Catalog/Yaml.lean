import Subscription.Catalog
import Subscription.Yaml.Decode

/-! Catalogs read from YAML, a mapping from handles for each kind of entry. -/

namespace Subscription.Catalog

open Yaml

/-- A schema by its fields, of which the root element is required. -/
def decodeSchema (d : Document) (n : Node Nat) : Decode Schema := do
  let (targetNamespace, root) ← Decode.record d
    [("target_namespace", fun (_, root) n => do return (← Decode.text? d n, root)),
      ("root_element", fun (ns, _) n => do return (ns, some (← Decode.text d n)))]
    (none, none) n
  let rootElement ← (root : Option String)
  return { targetNamespace, rootElement }

/-- A catalog by its tables, in which the last entry of a name counts. -/
def decode (d : Document) : Node Nat → Decode Catalog :=
  Decode.record d
    [("attributes", fun c n => do
        return { c with attributes := .ofWrites (← Decode.entries d (Decode.text d) n) }),
      ("schemas", fun c n => do
        return { c with schemas := .ofWrites (← Decode.entries d (decodeSchema d) n) }),
      ("endpoints", fun c n => do
        return { c with endpoints := .ofWrites (← Decode.entries d (Decode.text d) n) })]
    {}

/-- The catalog of a text. -/
def ofYaml? (text : String) : Option Catalog :=
  Decode.run? decode {} text

end Subscription.Catalog
