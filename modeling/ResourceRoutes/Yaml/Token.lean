set_option autoImplicit false

namespace ResourceRoutes.Yaml

inductive Style where
  | plain
  | singleQuoted
  | doubleQuoted
  | literal
  | folded
deriving DecidableEq, Repr

-- Ends of the text, of a block and of a document are tokens, as indentation is not seen later on.
inductive Token where
  | version (major minor : Nat)
  | tagHandle (handle leading : List Char)
  | documentStart
  | documentEnd
  | blockSequenceStart
  | blockMappingStart
  | blockEnd
  | flowSequenceStart
  | flowSequenceEnd
  | flowMappingStart
  | flowMappingEnd
  | blockEntry
  | flowEntry
  | key
  | value
  | alias (name : List Char)
  | anchor (name : List Char)
  | tag (handle ending : List Char)
  | scalar (text : List Char) (style : Style)
deriving DecidableEq, Repr

end ResourceRoutes.Yaml
