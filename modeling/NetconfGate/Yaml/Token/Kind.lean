import NetconfGate.Yaml.Fault

/-!
# Tokens

The words and indicators of a document, each with the marks of its two ends.
-/

namespace NetconfGate.Yaml

/-- How a scalar is written. -/
inductive Style where
  | plain
  | singleQuoted
  | doubleQuoted
  | literal
  | folded
deriving DecidableEq

inductive Token.Kind where
  | streamStart
  | streamEnd
  | version (major minor : Nat)
  | handle (name lead : List Char)
  | documentStart
  | documentEnd
  | blockSequenceStart
  | blockMappingStart
  | blockEnd
  | flowSequenceStart
  | flowSequenceEnd
  | flowMappingStart
  | flowMappingEnd
  | blockEntry
  | flowEntry
  | key
  | value
  | alias (name : List Char)
  | anchor (name : List Char)
  | tag (handle rest : List Char)
  | scalar (text : List Char) (style : Style)
deriving DecidableEq

structure Token where
  kind : Token.Kind
  start : Mark
  stop : Mark

end NetconfGate.Yaml
