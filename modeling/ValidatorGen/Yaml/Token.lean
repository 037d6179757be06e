import ValidatorGen.Text.CodePoint

/-!
# Tokens

What a YAML text is cut into.  Block collections have no brackets; their starts and ends, which
follow from the columns, are tokens all the same.
-/

namespace ValidatorGen.Yaml

inductive Token
  /-- The directive that says which version of YAML a document is written in. -/
  | version (major : Nat)
  /-- The directive that says what a tag handle stands for. -/
  | handle (name stem : Text)
  /-- A directive that has no meaning. -/
  | reserved
  | documentStart
  | documentEnd
  | blockSequenceStart
  | blockMappingStart
  | blockEnd
  | flowSequenceStart
  | flowSequenceEnd
  | flowMappingStart
  | flowMappingEnd
  | flowEntry
  | blockEntry
  | key
  | value
  | alias (name : Text)
  | anchor (name : Text)
  /-- A tag; without a handle the suffix is all of it. -/
  | tag (handle? : Option Text) (suffix : Text)
  | scalar (text : Text) (plain : Bool)
  deriving DecidableEq, Repr

namespace Token

def isDirective : Token → Bool
  | version _ => true
  | handle .. => true
  | reserved => true
  | _ => false

end Token

end ValidatorGen.Yaml
