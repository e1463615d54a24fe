import Gateway.Yaml.Node.Grammar
import Gateway.Yaml.Token.Lexer

/-!
Documents. `parse?` reads the one document of a text: whatever follows is looked at only as far as
it takes to see whether another document begins. A text with far more aliases than anchors is
refused.
-/

namespace Gateway.Yaml

namespace Parse

/-- Reads the directives before a document. Each one replaces what the handles stood for before. -/
def directives : Nat → Bool → Parse Unit
  | 0, _ => failure
  | fuel + 1, versioned => do
      match ← peek with
      | .versionDirective =>
          if versioned then failure
          else
            modify fun reading => { reading with handles := [] }
            skip
            directives fuel true
      | .tagDirective handle stem =>
          modify fun reading => { reading with handles := [(handle, stem)] }
          skip
          directives fuel versioned
      | _ => return

/-- Reads a document that begins with directives or a marker, up to its content. -/
def explicitStart : Parse Unit := do
  directives ((← get).tokens.length + 1) false
  if (← peek) = .documentStart then skip else failure

def skipEnds : Parse Unit :=
  modify fun reading => { reading with tokens := reading.tokens.dropWhile (· = .documentEnd) }

def isExplicit (token : Token) : Bool := token.isDirective || token = .documentStart

def document : Parse Node := do
  skipEnds
  let next ← peek
  if next = .streamEnd then return .absent
  else if isExplicit next then
    explicitStart
    if (← peek).isBoundary then return .absent else whole
  else whole

/-- Reads the end of a document. Without a marker no directive may follow. -/
def documentEnd : Parse Bool := do
  let next ← peek
  if next = .documentEnd then
    skip
    return true
  else if next.isDirective then failure
  else return false

def contentStart : Parse Unit := do
  match ← peek with
  | .alias _ => failure
  | _ =>
      let found ← properties
      let next ← peek
      let isContent : Bool := match next with
        | .scalar _ _ | .flowSequenceStart | .flowMappingStart | .blockSequenceStart
        | .blockMappingStart => true
        | _ => !found.isEmpty
      if isContent then return else failure

/-- Succeeds if another document begins behind the end of one. Without a marker in between, only a
marker or directives begin one. -/
def anotherStart (marked : Bool) : Parse Unit := do
  skipEnds
  let next ← peek
  if next = .streamEnd then failure
  else if isExplicit next then
    explicitStart
    if (← peek).isBoundary then return else contentStart
  else if marked then contentStart
  else failure

end Parse

namespace Reading

/-- How many aliases are always permitted. -/
def freeAliases : Nat := 100

/-- How many aliases there may be for an anchor beyond that. -/
def aliasesPerAnchor : Nat := 10

/-- Whether the aliases are out of proportion. -/
def isBomb (reading : Reading) : Bool :=
  freeAliases ≤ reading.aliases && aliasesPerAnchor * reading.names.length < reading.aliases

end Reading

/-- The node of a text that holds one document. -/
def parse? (text : String) : Option Node := do
  let reading : Reading := { tokens := Token.scan (content text) }
  let (node, after) ← Parse.document.run reading
  let (marked, after) ← Parse.documentEnd.run after
  if ((Parse.anotherStart marked).run after).isSome || after.isBomb then none else some node

end Gateway.Yaml
