import Gateway.Yaml.Node

/-!
Nodes from tokens. Names of anchors stand for the nodes that they mark, once these are complete; the
handles of tags stand for what the directives of the document say.
-/

namespace Gateway.Yaml

/-- What is known while nodes are read. -/
structure Reading where
  tokens : List Token
  /-- Texts that handles of tags stand for. -/
  handles : List (String × String) := []
  /-- Names of anchors, the last one first; an anchor is known by its number. -/
  names : List (String × Nat) := []
  nodes : List (Nat × Node) := []
  aliases : Nat := 0

/-- A step over tokens, which may fail. -/
abbrev Parse := StateT Reading Option

namespace Parse

def peek : Parse Token := do
  match (← get).tokens with
  | token :: _ => return token
  | [] => failure

def skip : Parse Unit := modify fun reading => { reading with tokens := reading.tokens.drop 1 }

/-- What comes before the content of a node. -/
structure Properties where
  anchor : Option Nat := none
  tag : Option String := none

def Properties.isEmpty (properties : Properties) : Bool :=
  properties.anchor.isNone && properties.tag.isNone

/-- The full form of a tag. A handle with a name has to be known. -/
def resolveTag (handle suffix : String) : Parse String := do
  let reading ← get
  match reading.handles.find? fun pair => pair.1 = handle with
  | some (_, stem) => return stem ++ suffix
  | none =>
      if handle = "!!" then return TagKind.commonStem ++ suffix
      else if 2 ≤ handle.length && handle.endsWith "!" then failure
      else return handle ++ suffix

def nameAnchor (name : String) : Parse Nat := do
  let number := (← get).names.length
  modify fun reading => { reading with names := (name, number) :: reading.names }
  return number

/-- Reads an anchor and a tag in either order. -/
def properties : Parse Properties := do
  match ← peek with
  | .anchor name =>
      skip
      let anchor ← nameAnchor name
      match ← peek with
      | .tag handle suffix =>
          skip
          return { anchor := some anchor, tag := some (← resolveTag handle suffix) }
      | _ => return { anchor := some anchor }
  | .tag handle suffix =>
      skip
      let tag ← resolveTag handle suffix
      match ← peek with
      | .anchor name =>
          skip
          return { anchor := some (← nameAnchor name), tag := some tag }
      | _ => return { tag := some tag }
  | _ => return {}

def keep (properties : Properties) (node : Node) : Parse Node := do
  match properties.anchor with
  | some anchor =>
      modify fun reading => { reading with nodes := (anchor, node) :: reading.nodes }
      return node
  | none => return node

def refer (name : String) : Parse Node := do
  modify fun reading => { reading with aliases := reading.aliases + 1 }
  let reading ← get
  match reading.names.find? fun pair => pair.1 = name with
  | none => failure
  | some (_, number) =>
      match reading.nodes.find? fun pair => pair.1 = number with
      | some (_, node) => return node
      | none => failure

/-- A scalar with its properties. An empty text in single quotes that is marked by an anchor counts
as not written. -/
def scalarNode (properties : Properties) (style : Style) (text : String) : Node :=
  let isBlank := text = "" && style = .singleQuoted && properties.anchor.isSome
  .scalar ⟨text, if isBlank then .plain else style, properties.tag⟩

/-- Whether no node stands before the token in a block. -/
def endsKey (token : Token) : Bool :=
  token = .key || token = .value || token = .blockEnd

mutual

/-- A node. Within brackets it is no block; the value of a key may be a list not indented. -/
def node : Nat → Bool → Bool → Parse Node
  | 0, _, _ => failure
  | fuel + 1, inBlock, inMap => do
      match ← peek with
      | .alias name =>
          skip
          refer name
      | _ =>
          let found ← properties
          match ← peek with
          | .blockEntry =>
              if inMap then keep found (.list (← flatItems fuel []))
              else if found.isEmpty then failure
              else keep found (scalarNode found .plain "")
          | .scalar style text =>
              skip
              keep found (scalarNode found style text)
          | .flowSequenceStart =>
              skip
              keep found (.list (← flowItems fuel []))
          | .flowMappingStart =>
              skip
              keep found (.map (← flowEntries fuel []))
          | .blockSequenceStart =>
              if inBlock then
                skip
                keep found (.list (← blockItems fuel []))
              else if found.isEmpty then failure
              else keep found (scalarNode found .plain "")
          | .blockMappingStart =>
              if inBlock then
                skip
                keep found (.map (← blockEntries fuel []))
              else if found.isEmpty then failure
              else keep found (scalarNode found .plain "")
          | _ =>
              if found.isEmpty then failure else keep found (scalarNode found .plain "")

def blockItems : Nat → List Node → Parse (List Node)
  | 0, _ => failure
  | fuel + 1, items => do
      match ← peek with
      | .blockEnd =>
          skip
          return items
      | .blockEntry =>
          skip
          let next ← peek
          if next = .blockEntry || next = .blockEnd then blockItems fuel (items ++ [.absent])
          else blockItems fuel (items ++ [← node fuel true false])
      | _ => failure

/-- The items of a list at the column of the map around it. -/
def flatItems : Nat → List Node → Parse (List Node)
  | 0, _ => failure
  | fuel + 1, items => do
      match ← peek with
      | .blockEntry =>
          skip
          let next ← peek
          if next = .blockEntry || endsKey next then flatItems fuel (items ++ [.absent])
          else flatItems fuel (items ++ [← node fuel true false])
      | _ => return items

def blockEntries : Nat → List (Node × Node) → Parse (List (Node × Node))
  | 0, _ => failure
  | fuel + 1, entries => do
      match ← peek with
      | .key =>
          skip
          let key ← if endsKey (← peek) then pure Node.absent else node fuel true true
          let value ← blockValue fuel
          blockEntries fuel (entries ++ [(key, value)])
      | .value =>
          let value ← blockValue fuel
          blockEntries fuel (entries ++ [(.absent, value)])
      | .blockEnd =>
          skip
          return entries
      | _ => failure

def blockValue : Nat → Parse Node
  | 0 => failure
  | fuel + 1 => do
      match ← peek with
      | .value =>
          skip
          if endsKey (← peek) then return .absent else node fuel true true
      | _ => return .absent

def flowItems : Nat → List Node → Parse (List Node)
  | 0, _ => failure
  | fuel + 1, items => do
      match ← peek with
      | .flowSequenceEnd =>
          skip
          return items
      | .key =>
          skip
          flowItemsEnd fuel (items ++ [.map [← flowPair fuel]])
      | _ => flowItemsEnd fuel (items ++ [← node fuel false false])

def flowItemsEnd : Nat → List Node → Parse (List Node)
  | 0, _ => failure
  | fuel + 1, items => do
      match ← peek with
      | .flowSequenceEnd =>
          skip
          return items
      | .flowEntry =>
          skip
          flowItems fuel items
      | _ => failure

/-- A map of one entry in a list. A key that is not written takes the token behind it along. -/
def flowPair : Nat → Parse (Node × Node)
  | 0 => failure
  | fuel + 1 => do
      let next ← peek
      let key ←
        if next = .value || next = .flowEntry || next = .flowSequenceEnd then do
          skip
          pure Node.absent
        else node fuel false false
      match ← peek with
      | .value =>
          skip
          let next ← peek
          if next = .flowEntry || next = .flowSequenceEnd then return (key, .absent)
          else return (key, ← node fuel false false)
      | _ => return (key, .absent)

def flowEntries : Nat → List (Node × Node) → Parse (List (Node × Node))
  | 0, _ => failure
  | fuel + 1, entries => do
      match ← peek with
      | .flowMappingEnd =>
          skip
          return entries
      | .key =>
          skip
          let next ← peek
          let key ←
            if next = .value || next = .flowEntry || next = .flowMappingEnd then pure Node.absent
            else node fuel false false
          flowEntriesEnd fuel (entries ++ [(key, ← flowValue fuel)])
      | .value => flowEntriesEnd fuel (entries ++ [(.absent, ← flowValue fuel)])
      | _ =>
          let key ← node fuel false false
          let _ ← peek
          flowEntriesEnd fuel (entries ++ [(key, .absent)])

def flowEntriesEnd : Nat → List (Node × Node) → Parse (List (Node × Node))
  | 0, _ => failure
  | fuel + 1, entries => do
      match ← peek with
      | .flowMappingEnd =>
          skip
          return entries
      | .flowEntry =>
          skip
          flowEntries fuel entries
      | _ => failure

def flowValue : Nat → Parse Node
  | 0 => failure
  | fuel + 1 => do
      match ← peek with
      | .value =>
          skip
          let next ← peek
          if next = .flowEntry || next = .flowMappingEnd then return .absent
          else node fuel false false
      | _ => return .absent

end

/-- A node, with enough fuel for all tokens that are left: every third step takes one at least. -/
def whole : Parse Node := do
  node (4 * (← get).tokens.length + 4) true false

end Parse

end Gateway.Yaml
