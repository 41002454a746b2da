/-! Tokens of YAML text, in which indentation has become explicit. -/

namespace Subscription.Yaml

/-- How a scalar is written. -/
inductive Style where
  | plain
  | singleQuoted
  | doubleQuoted
  | literal
  | folded
deriving DecidableEq

/-- A token; the end of the text is the end of the list of tokens. -/
inductive Token where
  | version (major minor : Nat)
  | tagShorthand (handle expansion : List Char)
  | documentStart
  | documentEnd
  | blockSequenceStart
  | blockMappingStart
  | blockEnd
  | flowSequenceStart
  | flowSequenceEnd
  | flowMappingStart
  | flowMappingEnd
  | blockEntry
  | flowEntry
  | key
  | value
  | alias (name : String)
  | anchor (name : String)
  /-- A tag by the handle it is abbreviated with, if any, and the rest of it. -/
  | tag (handle suffix : List Char)
  | scalar (style : Style) (text : String)
deriving DecidableEq

end Subscription.Yaml
