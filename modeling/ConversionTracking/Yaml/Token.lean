/-!
The tokens of a YAML text.
-/

namespace ConversionTracking.Yaml

structure WrittenTag where
  handle : Option String
  suffix : String
deriving DecidableEq, Repr

inductive Directive where
  | version (major : Nat)
  | tagHandle (handle expansion : String)
  | other
deriving DecidableEq, Repr

inductive Token where
  | streamEnd
  | directive (directive : Directive)
  | documentStart
  | documentEnd
  | blockSequenceStart
  | blockMappingStart
  | blockEnd
  | flowSequenceStart
  | flowMappingStart
  | flowSequenceEnd
  | flowMappingEnd
  | flowEntry
  | blockEntry
  | key
  | value
  | alias (name : String)
  | anchor (name : String)
  | tag (tag : WrittenTag)
  | scalar (text : String) (isPlain : Bool)
deriving DecidableEq, Repr

end ConversionTracking.Yaml
