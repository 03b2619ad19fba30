/-!
# Tokens of YAML text

The tokens that a text is cut into. Block collections, which indentation alone marks in
the text, have tokens for their beginning and end.
-/

namespace Outline.Yaml

/-- A token. -/
inductive Token where
  | streamStart
  | streamEnd
  /-- `%YAML major.minor` -/
  | versionDirective (major minor : Nat)
  /-- `%TAG handle start` -/
  | tagDirective (handle start : String)
  /-- `---` -/
  | documentStart
  /-- `...` -/
  | documentEnd
  | blockSequenceStart
  | blockMappingStart
  | blockEnd
  /-- `[` -/
  | flowSequenceStart
  /-- `]` -/
  | flowSequenceEnd
  /-- `{` -/
  | flowMappingStart
  /-- `}` -/
  | flowMappingEnd
  /-- `-` -/
  | blockEntry
  /-- `,` -/
  | flowEntry
  /-- `?`, or the place before a key that needs no mark -/
  | key
  /-- `:` -/
  | value
  /-- `*name` -/
  | alias (name : String)
  /-- `&name` -/
  | anchor (name : String)
  /-- `!handle!suffix`; a tag in full has no handle -/
  | tag (handle suffix : String)
  /-- A scalar; quoted and block scalars are not plain. -/
  | scalar (text : String) (isPlain : Bool)
deriving DecidableEq

end Outline.Yaml
