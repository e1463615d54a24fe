import Gateway.Yaml.Token.Scalar

/-!
The tokens of a text. Each step takes the next token by its first characters and keeps the layout up
to date; `Token.scan` collects them until the text ends or cannot be read further.
-/

namespace Gateway.Yaml

namespace Lex

/-- Reads a marker of documents: everything that is open ends. -/
def marker (token : Token) : Lex Unit := do
  update fun layout => layout.unrollTo (-1)
  attempt Layout.dropChance
  update fun layout => ((layout.allowKey false).skip 3).push token

def directiveLine : Lex Unit := do
  update fun layout => layout.unrollTo (-1)
  attempt Layout.dropChance
  update fun layout => layout.allowKey false
  let token ← directive
  update fun layout => layout.push token

/-- Reads the end of the text. No key may be missing and no bracket open. -/
def finish : Lex Unit := do
  require ((← get).depth = 0)
  attempt Layout.dropChance
  update fun layout => ((layout.unrollTo (-1)).allowKey false).push .streamEnd

def openBracket (token : Token) : Lex Unit := do
  update fun layout => layout.saveChance.rollSoft
  attempt Layout.openBracket
  update fun layout =>
    let opened := (layout.allowKey true).skip 1
    if token = .flowMappingStart then { opened with mapStarted := true }
    else { opened with pairings := .possible :: opened.pairings }
  let _ ← skipToLineEnd true
  update fun layout => layout.push token

def closeBracket (token : Token) : Lex Unit := do
  let depth := (← get).depth
  require (0 < depth)
  attempt Layout.dropChance
  update fun layout =>
    let closed := layout.closeBracket.allowKey false
    let ended := if token = .flowSequenceEnd then
      let ended := closed.endPairing depth
      { ended with pairings := ended.pairings.drop 1 }
    else closed
    ended.skip 1
  let _ ← skipToLineEnd true
  update fun layout =>
    let touching := if 0 < layout.depth then layout.cursor.index else layout.touching
    { layout with touching }.push token

def comma : Lex Unit := do
  attempt Layout.dropChance
  update fun layout => (((layout.allowKey true).endPairing layout.depth).skip 1)
  let _ ← skipToLineEnd true
  update fun layout => layout.push .flowEntry

def dash : Lex Unit := do
  let layout ← get
  require (layout.depth = 0 && layout.keyAllowed)
  require (!(layout.property = some 0 && layout.cursor.column = 0 && -1 < layout.indent))
  update fun layout => (layout.skip 1).roll layout.cursor.column none .blockSequenceStart
  let blanks ← skipToLineEnd true
  let next ← rest
  require (!(blanks.tabs && next.head? = some '-' && endsWord (next.drop 1)))
  update fun layout =>
    if next.head?.any fun c => c = '\n' || isFlowIndicator c then layout.rollSoft else layout
  attempt Layout.dropChance
  update fun layout => (layout.allowKey true).push .blockEntry

/-- Passes over blanks, comments and line breaks behind a question mark; there is at least one blank
or line break. -/
def keySpace : Nat → Bool → Lex Unit
  | 0, _ => return
  | fuel + 1, found => do
      match ← rest with
      | ' ' :: _ =>
          update fun layout => layout.skipBlanks 1
          keySpace fuel true
      | '\n' :: _ =>
          update fun layout =>
            let next := layout.skipLine
            if next.depth = 0 then next.allowKey true else next
          keySpace fuel true
      | '#' :: _ =>
          skipComment
          keySpace fuel found
      | next => require (found && next.head? ≠ some '\t')

def questionMark : Lex Unit := do
  let layout ← get
  let outside : Bool := layout.depth = 0
  if outside then
    require layout.keyAllowed
    update fun layout => layout.roll layout.cursor.column none .blockMappingStart
  else update fun layout => { layout with mapStarted := true }
  attempt Layout.dropChance
  update fun layout => (layout.allowKey outside).skip 1
  keySpace (← fuel) false
  update fun layout => layout.push .key

/-- Turns what stood before a colon into a key. -/
def keyBefore (pairing : Bool) (line : Nat) : Lex Unit := do
  let chance := (← get).chance
  update fun layout => layout.insert chance.token .key
  if pairing then
    require (line ≤ chance.line)
    update fun layout => layout.insert chance.token .flowMappingStart
  update fun layout =>
    let rolled := (layout.roll chance.column (some chance.token) .blockMappingStart).rollSoft
    { rolled with chance := { rolled.chance with isOpen := false } }.allowKey false

/-- Reads a colon without a key on its line. -/
def colonAlone (pairing : Bool) (column : Nat) : Lex Unit := do
  update fun layout => if pairing then layout.push .flowMappingStart else layout
  let outside : Bool := (← get).depth = 0
  if outside then
    require (← get).keyAllowed
    update fun layout => layout.roll column none .blockMappingStart
  update fun layout => layout.rollSoft.allowKey outside

/-- Reads the colon of a value. A tab alone must not part it from a word. -/
def colon : Lex Unit := do
  let start ← get
  let pairing := !start.pairings.isEmpty && !start.mapStarted
  update fun layout =>
    let marked := if pairing then
      { layout with pairings := .inside layout.depth :: layout.pairings.drop 1 }
    else layout
    marked.skip 1
  if (← rest).head? = some '\t' then
    let blanks ← skipToLineEnd true
    require (blanks.spaces || !(← rest).head?.any isWordChar)
  if start.chance.isOpen then keyBefore pairing start.cursor.line
  else colonAlone pairing start.cursor.column
  update fun layout => layout.push .value

/-- Whether a colon within brackets belongs to a value though a blank does not follow. -/
def isTightColon (layout : Layout) : Bool :=
  0 < layout.depth &&
    (layout.rest[1]?.any isFlowIndicator || layout.cursor.index = layout.touching)

/-- Reads a colon that touches what follows: a bracket may only follow where a value may touch. -/
def tightColon : Lex Unit := do
  let layout ← get
  require (layout.cursor.index = layout.touching ||
    !layout.rest[1]?.any fun c => c = '[' || c = '\x7b')
  colon

def scalar (keyAllowed : Bool) (read : Lex Token) : Lex Unit := do
  update fun layout => layout.saveChance.allowKey keyAllowed
  let token ← read
  update fun layout => layout.push token

/-- Reads a scalar in quotes; a value may touch the colon behind it. -/
def quotedScalar (single : Bool) : Lex Unit := do
  update fun layout => layout.saveChance.allowKey false
  let token ← quoted single
  toToken
  update fun layout => { layout with touching := layout.cursor.index }.push token

def content : Lex Unit := do
  let layout ← get
  let outside : Bool := layout.depth = 0
  let isWord := endsWord (layout.rest.drop 1)
  match layout.rest with
  | '[' :: _ => openBracket .flowSequenceStart
  | '\x7b' :: _ => openBracket .flowMappingStart
  | ']' :: _ => closeBracket .flowSequenceEnd
  | '\x7d' :: _ => closeBracket .flowMappingEnd
  | ',' :: _ => comma
  | '-' :: _ => if isWord then dash else scalar false plain
  | '?' :: _ => if isWord then questionMark else scalar false plain
  | ':' :: _ =>
      if isWord then colon else if isTightColon layout then tightColon else scalar false plain
  | '*' :: _ => property (Token.alias <$> name)
  | '&' :: _ => property (Token.anchor <$> name)
  | '!' :: _ => property tag
  | '|' :: _ => if outside then scalar true (block true) else scalar false plain
  | '>' :: _ => if outside then scalar true (block false) else scalar false plain
  | '"' :: _ => quotedScalar false
  | '%' :: _ => failure
  | '@' :: _ => failure
  | c :: _ =>
      if c.toNat = 39 then quotedScalar true
      else if c.toNat = 96 then failure
      else scalar false plain
  | [] => failure

/-- Reads the next token, with those that it brings along. -/
def next : Lex Unit := do
  toToken
  attempt Layout.dropStale
  update fun layout => layout.unrollTo layout.cursor.column
  let layout ← get
  if layout.rest.isEmpty then finish
  else if layout.cursor.column = 0 && layout.rest.head? = some '%' then directiveLine
  else if layout.cursor.column = 0 && layout.cursor.atWord "---" then marker .documentStart
  else if layout.cursor.column = 0 && layout.cursor.atWord "..." then
    marker .documentEnd
    let _ ← skipToLineEnd true
    requireLineEnd
  else
    require (layout.indent ≤ layout.column)
    content

end Lex

namespace Token

/-- Reads tokens until the text ends or a step fails. Then tokens that might still have turned out
to be keys are lost. -/
def scanFrom : Nat → Layout → List Token
  | 0, layout => layout.tokens.toList
  | fuel + 1, layout =>
      if layout.tokens.back? = some .streamEnd then layout.tokens.toList
      else
        match StateT.run Lex.next layout with
        | some (_, after) => scanFrom fuel after
        | none =>
            let chance := layout.chance
            let settled := { layout with
              chance := { chance with isOpen := chance.isOpen && !layout.isStale chance } }
            layout.tokens.toList.take settled.settled

/-- The tokens of a text. The last one is `streamEnd` if the text can be read to its end. -/
def scan (chars : List Char) : List Token :=
  scanFrom (chars.length + 2) { cursor := { rest := chars } }

end Token

end Gateway.Yaml
