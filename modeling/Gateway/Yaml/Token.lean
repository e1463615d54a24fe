/-!
Tokens of indented documents. What a reader sees as indentation is a pair of tokens here: the start
of a map or list, and `blockEnd`.
-/

namespace Gateway.Yaml

inductive Style where
  | plain
  | singleQuoted
  | doubleQuoted
  | literal
  | folded
  deriving DecidableEq, Repr, Inhabited

inductive Token where
  | streamEnd
  | versionDirective
  | tagDirective (handle stem : String)
  | documentStart
  | documentEnd
  | blockSequenceStart
  | blockMappingStart
  | blockEnd
  | flowSequenceStart
  | flowSequenceEnd
  | flowMappingStart
  | flowMappingEnd
  | blockEntry
  | flowEntry
  | key
  | value
  | alias (name : String)
  | anchor (name : String)
  | tag (handle suffix : String)
  | scalar (style : Style) (text : String)
  deriving DecidableEq, Repr, Inhabited

namespace Token

/-- Whether the token belongs to the directives before a document. -/
def isDirective : Token → Bool
  | versionDirective | tagDirective _ _ => true
  | _ => false

/-- Whether no content of a document begins with the token. -/
def isBoundary (token : Token) : Bool :=
  token.isDirective || token = documentStart || token = documentEnd || token = streamEnd

end Token

end Gateway.Yaml
