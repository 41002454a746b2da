import Subscription.Settings
import Subscription.Yaml.Decode

/-! Settings read from YAML, where each may be left out. -/

namespace Subscription.Settings

open Yaml

/-- Settings by their fields; the wire form has a record of its own. -/
def decode (d : Document) : Node Nat → Decode Settings :=
  Decode.record d
    [("max_groups", fun s n => do return { s with maxGroups := ← Decode.size d n }),
      ("max_depth", fun s n => do return { s with maxDepth := ← Decode.size d n }),
      ("xml", fun s n => Decode.record d
        [("declaration", fun s n => do return { s with declaration := ← Decode.bool d n })] s n)]
    {}

/-- The settings of a text. -/
def ofYaml? (text : String) : Option Settings :=
  Decode.run? decode {} text

end Subscription.Settings
