import Montage.Yaml.Source

/-!
# Tokens

The words of a YAML text. Indentation shows as tokens too: a block collection opens with
`blockSequenceStart` or `blockMappingStart` and ends with `blockEnd`.
-/

namespace Montage.Yaml

/-- A tag as written: a handle such as `!` or `!!`, absent in the form `!<…>`, and a suffix. -/
structure WrittenTag where
  handle : Option String
  suffix : String
  deriving BEq

inductive Directive
  | version (major : Nat)
  | tagHandle (handle expansion : String)
  | other
  deriving BEq

/-- A word of a YAML text. -/
inductive Token
  | directive (d : Directive)
  | documentStart
  | documentEnd
  | blockSequenceStart
  | blockMappingStart
  | blockEnd
  | flowSequenceStart
  | flowSequenceEnd
  | flowMappingStart
  | flowMappingEnd
  | blockEntry
  | flowEntry
  | key
  | value
  | alias (name : String)
  | anchor (name : String)
  | tag (t : WrittenTag)
  /-- A scalar, and whether it was written without quotes or block header. -/
  | scalar (plain : Bool) (text : String)
  deriving BEq

/-- The tokens of a text, as far as they can be read. -/
structure TokenStream where
  tokens : List Token
  /-- What happens when a token after these is asked for; none if the text ends with them. -/
  fault : Option Fault

end Montage.Yaml
