import Gateway.Base64
import Gateway.Json.Basic
import Gateway.SortedMap
import Gateway.Text.Blank
import Gateway.Yaml.Node

/-!
Trees of configuration, as they come from either of two notations. One has typed scalars; in the
other a scalar is text, and what it means depends on where it stands, and a map may bring in the
entries of others. The readers at the end accept a tree where a value of some kind is wanted.
-/

namespace Gateway.Config

inductive Tree where
  | null
  | bool (value : Bool)
  | number (value : Json.Number)
  | text (value : String)
  /-- An untyped scalar. -/
  | scalar (leaf : Yaml.Scalar)
  /-- A list; the flag says that it may stand for a record whose fields are given by place. -/
  | list (items : List Tree) (positional : Bool)
  | map (entries : List (Tree × Tree))
  deriving Repr, Inhabited

namespace Tree

mutual

def ofJson : Json → Tree
  | .null => .null
  | .bool value => .bool value
  | .num value => .number value
  | .str value => .text value
  | .arr items => .list (ofItems items) true
  | .obj members => .map (ofMembers members)

def ofItems : List Json → List Tree
  | [] => []
  | item :: rest => ofJson item :: ofItems rest

def ofMembers : List (String × Json) → List (Tree × Tree)
  | [] => []
  | (key, value) :: rest => (.text key, ofJson value) :: ofMembers rest

end

mutual

def ofNode : Yaml.Node → Tree
  | .scalar leaf => .scalar leaf
  | .list items => .list (ofNodes items) false
  | .map entries => .map (ofEntries entries)

def ofNodes : List Yaml.Node → List Tree
  | [] => []
  | node :: rest => ofNode node :: ofNodes rest

def ofEntries : List (Yaml.Node × Yaml.Node) → List (Tree × Tree)
  | [] => []
  | (key, value) :: rest => (ofNode key, ofNode value) :: ofEntries rest

end

/-- Whether a tree is an untyped scalar that stands for no value. -/
def isAbsent : Tree → Bool
  | .scalar leaf => leaf.isNull
  | _ => false

/-- Whether the tree is the key whose value is merged into the map. -/
def isMergeKey : Tree → Bool
  | .scalar leaf => leaf.text = "<<" && leaf.style = .plain
  | _ => false

/-- What tells keys apart: the text of a scalar with its kind. -/
def identity? : Tree → Option (String × Yaml.TagKind)
  | .text value => some (value, .untagged)
  | .scalar leaf => some (leaf.text, leaf.kind)
  | _ => none

mutual

/-- The entries that a merged tree brings in, those that go before others first. -/
def brought : Tree → Option (List (Tree × Tree))
  | .scalar leaf => if leaf.isNull then some [] else none
  | .list items _ => broughtByAll items
  | .map entries => (ownAndMerged entries).map fun (own, merged) => own ++ merged
  | _ => none

/-- The entries that a list of merged trees brings in: later trees go before earlier ones. -/
def broughtByAll : List Tree → Option (List (Tree × Tree))
  | [] => some []
  | item :: rest => do
      let later ← broughtByAll rest
      let first ← brought item
      some (later ++ first)

/-- The entries of a map of its own, and those that are merged into it: what is merged later goes
before what is merged earlier. -/
def ownAndMerged : List (Tree × Tree) → Option (List (Tree × Tree) × List (Tree × Tree))
  | [] => some ([], [])
  | (key, value) :: rest => do
      let (own, merged) ← ownAndMerged rest
      if key.isMergeKey then
        let first ← brought value
        some (own, merged ++ first)
      else some ((key, value) :: own, merged)

end

/-- Adds merged entries whose keys have not come before. -/
def addMerged (seen : List (String × Yaml.TagKind)) :
    List (Tree × Tree) → Option (List (Tree × Tree))
  | [] => some []
  | (key, value) :: rest => do
      let identity ← identity? key
      if seen.contains identity then addMerged seen rest
      else
        let others ← addMerged (identity :: seen) rest
        some ((key, value) :: others)

/-- All entries of a map. No key of its own comes twice. -/
def members? (entries : List (Tree × Tree)) : Option (List (Tree × Tree)) := do
  let (own, merged) ← ownAndMerged entries
  let identities ← own.mapM fun entry => identity? entry.1
  if identities.eraseDups.length < identities.length then none
  else
    let added ← addMerged identities merged
    some (own ++ added)

end Tree

abbrev Reader (Value : Type) := Tree → Option Value

namespace Reader

variable {Value : Type}

/-- The bytes of a scalar in Base64 as text; white space between its letters does not count. -/
def binaryText (text : String) : Option String :=
  let letters := text.toList.filter fun c => !(c ∈ " \t\n\r\x0c".toList)
  (Base64.decode? (String.ofList letters)).bind Utf8.decode?

/-- A scalar as text. One that stands for no value is a text only if its tag says so. -/
def scalarText (scalar : Yaml.Scalar) : Option String :=
  match scalar.kind with
  | .text => some scalar.text
  | .value _ => none
  | .binary => if scalar.isNull then none else binaryText scalar.text
  | _ => if scalar.isNull then none else some scalar.text

def text : Reader String
  | .text value => some value
  | .scalar scalar => scalarText scalar
  | _ => none

def optional (read : Reader Value) : Reader (Option Value)
  | .null => some none
  | .scalar scalar =>
      if scalar.isMissing then some none else (read (.scalar scalar)).map some
  | tree => (read tree).map some

def items (read : Reader Value) : List Tree → Option (List Value)
  | [] => some []
  | item :: rest => do
      let value ← read item
      let others ← items read rest
      some (value :: others)

def list (read : Reader Value) : Reader (List Value)
  | .list trees _ => items read trees
  | tree => if tree.isAbsent then some [] else none

/-- The entries of a map under their keys, which are texts. -/
def keyed (entries : List (Tree × Tree)) : Option (List (String × Tree)) := do
  let members ← Tree.members? entries
  members.mapM fun (key, value) => (text key).map fun name => (name, value)

def entries (read : Reader Value) : List (String × Tree) → Option (List (String × Value))
  | [] => some []
  | (key, tree) :: rest => do
      let value ← read tree
      let others ← entries read rest
      some ((key, value) :: others)

def sortedMap (read : Reader Value) : Reader (SortedMap Value)
  | .map members => ((keyed members).bind (entries read)).map SortedMap.ofList
  | tree => if tree.isAbsent then some [] else none

/-- The digits of a whole number in a base; underscores between them are skipped. -/
def wholeDigits (base : Nat) (chars : List Char) : Option Nat :=
  let digits := chars.filter (· ≠ '_')
  if digits.isEmpty then none
  else
    digits.foldlM (fun (value : Nat) c => do
      let digit ←
        if c.isDigit then some (c.toNat - 48)
        else if 'a' ≤ c.toLower ∧ c.toLower ≤ 'f' then some (c.toLower.toNat - 87)
        else none
      if digit < base then some (value * base + digit) else none) 0

/-- A whole number as it is written in an untyped scalar. -/
def wholeText (text : String) : Option Nat :=
  let chars := Text.trimChars text.toList
  let unsigned := match chars with
    | '+' :: rest => rest
    | _ => chars
  match unsigned with
  | '0' :: 'x' :: rest => wholeDigits 16 rest
  | '0' :: 'X' :: rest => wholeDigits 16 rest
  | '0' :: 'o' :: rest => wholeDigits 8 rest
  | '0' :: 'O' :: rest => wholeDigits 8 rest
  | '0' :: 'b' :: rest => wholeDigits 2 rest
  | '0' :: 'B' :: rest => wholeDigits 2 rest
  | _ => wholeDigits 10 unsigned

/-- A whole number below a bound. -/
def whole (bound : Nat) : Reader Nat := fun tree =>
  let value := match tree with
    | .number (.int value) => if 0 ≤ value then some value.toNat else none
    | .scalar scalar => wholeText scalar.text
    | _ => none
  value.filter (· < bound)

/-- The fields of a record: none beside the named ones, and none twice. -/
def fields (names : List String) : Reader (List (String × Tree))
  | .map entries => do
      let members ← keyed entries
      let given := members.map Prod.fst
      if given.all names.contains && given.eraseDups.length = given.length then some members
      else none
  | .list trees true => if trees.length ≤ names.length then some (names.zip trees) else none
  | tree => if tree.isAbsent then some [] else none

/-- A field of a record, or its default if there is one. -/
def field (record : List (String × Tree)) (name : String) (read : Reader Value)
    (default : Option Value) : Option Value :=
  match Json.lookup record name with
  | some tree => read tree
  | none => default

end Reader

end Gateway.Config
