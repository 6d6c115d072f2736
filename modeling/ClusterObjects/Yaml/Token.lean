/-!
# Tokens of a YAML text

The tokens that the structure of a document is read from. Collections written by indentation have
marks for their start and end, as those in brackets do.
-/

namespace ClusterObjects.Yaml

inductive Token where
  | streamEnd
  | version (major minor : Nat)
  | tagDirective (handle expansion : String)
  | documentStart
  | documentEnd
  | blockSequence
  | blockMapping
  | blockEnd
  | flowSequence
  | flowSequenceEnd
  | flowMapping
  | flowMappingEnd
  | blockEntry
  | flowEntry
  | key
  | value
  | reference (name : String)
  | anchor (name : String)
  | tag (handle suffix : String)
  | scalar (plain : Bool) (text : String)
  deriving DecidableEq, Repr

end ClusterObjects.Yaml
