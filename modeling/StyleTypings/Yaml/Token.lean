import StyleTypings.Failure

/-!
# Tokens of YAML

The pieces that YAML text is made of. Indentation is turned into tokens that open and close
block collections, and the key of a `key: value` entry gets a token in front although nothing
in the text marks it.
-/

namespace StyleTypings.Yaml

/-- A piece of YAML text. -/
inductive Token where
  /-- The version of YAML that a document is written in. -/
  | version (major minor : Nat)
  /-- A shorthand for the first part of tags. -/
  | tagShorthand (handle start : Text)
  /-- A directive of another kind. -/
  | otherDirective
  /-- The mark before a document. -/
  | documentStart
  /-- The mark behind a document. -/
  | documentEnd
  /-- The end of the text. -/
  | streamEnd
  /-- The beginning of an indented sequence. -/
  | blockSequenceStart
  /-- The beginning of an indented mapping. -/
  | blockMappingStart
  /-- The end of an indented collection. -/
  | blockEnd
  /-- An opening square bracket. -/
  | flowSequenceStart
  /-- A closing square bracket. -/
  | flowSequenceEnd
  /-- An opening curly bracket. -/
  | flowMappingStart
  /-- A closing curly bracket. -/
  | flowMappingEnd
  /-- The place of a key. -/
  | key
  /-- The place of a value. -/
  | value
  /-- The hyphen before a member of an indented sequence. -/
  | blockEntry
  /-- The comma between members in brackets. -/
  | flowEntry
  /-- A reference to the node of a name. -/
  | alias (name : Text)
  /-- A name for the node that follows. -/
  | anchor (name : Text)
  /-- The tag of the node that follows; the handle is absent when the tag is given in full. -/
  | tag (handle : Option Text) (rest : Text)
  /-- A text, and whether it stands bare. -/
  | scalar (text : Text) (plain : Bool)
  deriving DecidableEq, Repr

/-- Why YAML text cannot be loaded. -/
inductive Fault where
  /-- The text breaks a rule of YAML, or uses a tag without a meaning. -/
  | malformed
  /-- The text is well-formed, but a plain value in it cannot be made. -/
  | scalar (fault : ScalarFault)
  deriving DecidableEq, Repr

/-- The tokens of a text up to its end, or up to the first fault. -/
structure Tokens where
  /-- The tokens in order. -/
  tokens : List Token
  /-- The fault that keeps the text from being cut further. -/
  fault : Option Fault
  deriving DecidableEq, Repr

end StyleTypings.Yaml
