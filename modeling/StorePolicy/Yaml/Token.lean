/-!
# Tokens of YAML

The pieces of a YAML text. Block structure is told by indentation: the starts and ends
of block collections are tokens of their own, and so is the mark of a key. The tokens of a
text end with the end of the stream or where the text is broken.
-/
namespace StorePolicy.Yaml

inductive ScalarStyle where
  | plain
  | single
  | double
  | literal
  | folded
deriving DecidableEq, Inhabited

inductive Token where
  | version (major minor : Nat)
  | tagDirective (handle start : String)
  | documentStart
  | documentEnd
  | blockSequence
  | blockMapping
  | blockEnd
  | flowSequence
  | flowSequenceEnd
  | flowMapping
  | flowMappingEnd
  | blockEntry
  | flowEntry
  | key
  | value
  | alias (name : String)
  | anchor (name : String)
  | tag (handle suffix : String)
  | scalar (style : ScalarStyle) (text : String)
  | streamEnd
  | broken
deriving DecidableEq, Inhabited

end StorePolicy.Yaml
