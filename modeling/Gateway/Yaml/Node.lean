import Gateway.Text.Blank
import Gateway.Yaml.Token

/-!
Nodes of indented documents: scalars, lists and maps, whose keys are nodes too. A scalar keeps the
way it is written and its tag, since what it stands for depends on them.
-/

namespace Gateway.Yaml

structure Scalar where
  text : String
  style : Style
  tag : Option String
  deriving DecidableEq, Repr, Inhabited

/-- What a tag says about the scalar behind it. -/
inductive TagKind where
  | untagged
  | text
  /-- Bytes in Base64. -/
  | binary
  /-- A kind of value that is no text. -/
  | value (name : String)
  /-- Something that is not known here, under its full name. -/
  | other (name : String)
  deriving DecidableEq, Repr, Inhabited

namespace TagKind

/-- What the names of common kinds begin with. -/
def commonStem : String := "tag:yaml.org,2002:"

/-- Kinds of values that are no texts. -/
def valueNames : List String := ["bool", "float", "int", "map", "null", "seq"]

/-- The kind that a tag names, be it by a common or a local name. -/
def ofTag (tag : String) : TagKind :=
  let isNamed (name : String) : Bool := tag = commonStem ++ name || tag = "!" ++ name
  if isNamed "str" then .text
  else if isNamed "binary" then .binary
  else
    match valueNames.find? isNamed with
    | some name => .value name
    | none => .other tag

def localName? : TagKind → Option String
  | other tag =>
      let name := tag.toList.dropWhile (· = '!')
      if name.isEmpty || name.any fun c => c = ':' || c = '!' then none
      else some (String.ofList name)
  | _ => none

end TagKind

namespace Scalar

/-- The scalar where nothing is written. -/
def absent : Scalar := ⟨"~", .plain, none⟩

def kind (scalar : Scalar) : TagKind := (scalar.tag.map TagKind.ofTag).getD .untagged

def isNull (scalar : Scalar) : Bool :=
  scalar.style = .plain &&
    (scalar.text = "" || scalar.text = "~" || Text.lower scalar.text = "null")

/-- Whether the scalar stands for no value where there may be none: an empty block does so too. -/
def isMissing (scalar : Scalar) : Bool :=
  scalar.isNull ||
    (scalar.text = "" && scalar.style ≠ .singleQuoted && scalar.style ≠ .doubleQuoted)

end Scalar

inductive Node where
  | scalar (scalar : Scalar)
  | list (items : List Node)
  | map (entries : List (Node × Node))
  deriving Repr, Inhabited

namespace Node

def absent : Node := .scalar .absent

end Node

end Gateway.Yaml
