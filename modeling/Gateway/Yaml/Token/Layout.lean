import Gateway.Yaml.Cursor
import Gateway.Yaml.Token

/-!
What is known while a text is split into tokens: the indentation of the open maps and lists, which
brackets are open, and which tokens may turn out to be keys. A key is known as one only by the colon
behind it, so the tokens that announce it are put in front of it later.
-/

namespace Gateway.Yaml

/-- A token that is a key if a colon follows it. -/
structure KeyChance where
  isOpen : Bool := false
  /-- Nothing but a key may stand here. -/
  required : Bool := false
  /-- The place of the token. -/
  token : Nat := 0
  index : Nat := 0
  line : Nat := 0
  column : Nat := 0
  deriving Repr, Inhabited

/-- Whether a list in brackets holds a map of a single entry just now. -/
inductive Pairing where
  | possible
  /-- Within an entry that began at so many open brackets. -/
  | inside (depth : Nat)
  deriving DecidableEq, Repr, Inhabited

/-- An indentation that was left for a deeper one. -/
structure Outer where
  indent : Int
  /-- Whether a map or list began at the deeper one; if not, it only keeps scalars to the right. -/
  isBlock : Bool
  deriving Repr, Inhabited

structure Layout where
  cursor : Cursor
  indent : Int := -1
  /-- The indentations around the present one, the nearest one first. -/
  outers : List Outer := []
  keyAllowed : Bool := true
  /-- The chance of the present text and those of the brackets around it. -/
  chance : KeyChance := {}
  chances : List KeyChance := []
  mapStarted : Bool := false
  pairings : List Pairing := []
  /-- Where a colon may touch the value behind it. -/
  touching : Nat := 0
  tokens : Array Token := #[]
  /-- The column of the last token if it is an anchor or a tag. -/
  property : Option Nat := none

def maxDepth : Nat := 255

namespace Layout

def depth (layout : Layout) : Nat := layout.chances.length

def column (layout : Layout) : Int := layout.cursor.column

def rest (layout : Layout) : List Char := layout.cursor.rest

def push (layout : Layout) (token : Token) : Layout :=
  { layout with tokens := layout.tokens.push token, property := none }

/-- Puts a token in front of the one at a place. -/
def insert (layout : Layout) (place : Nat) (token : Token) : Layout :=
  { layout with
    tokens := (layout.tokens.extract 0 place).push token ++
      layout.tokens.extract place layout.tokens.size }

def skip (layout : Layout) (count : Nat) : Layout :=
  { layout with cursor := layout.cursor.advance count true }

def skipBlanks (layout : Layout) (count : Nat) : Layout :=
  { layout with cursor := layout.cursor.advance count false }

def skipLine (layout : Layout) : Layout :=
  { layout with cursor := layout.cursor.advanceLine }

/-- Whether the present indentation belongs to a map or list. -/
def isBlockIndent (layout : Layout) : Bool := layout.outers.head?.any Outer.isBlock

/-- Leaves indentations beyond a column; maps and lists end with them. -/
def unroll (column : Int) (layout : Layout) : Layout :=
  go layout.outers layout
where
  go : List Outer → Layout → Layout
    | [], layout => layout
    | outer :: outers, layout =>
        if layout.indent ≤ column then layout
        else
          let left := { layout with indent := outer.indent, outers }
          go outers (if outer.isBlock then left.push .blockEnd else left)

/-- Leaves indentations beyond a column unless a bracket is open. -/
def unrollTo (layout : Layout) (column : Int) : Layout :=
  if 0 < layout.depth then layout else layout.unroll column

/-- Leaves indentations at which no map or list began. -/
def unrollSoft (layout : Layout) : Layout :=
  go layout.outers layout
where
  go : List Outer → Layout → Layout
    | [], layout => layout
    | outer :: outers, layout =>
        if outer.isBlock then layout else go outers { layout with indent := outer.indent, outers }

/-- Begins a map or list at a column unless one is open there. Its token goes to a place, or to the
end. -/
def roll (layout : Layout) (column : Nat) (place : Option Nat) (token : Token) : Layout :=
  if 0 < layout.depth then layout
  else
    let firm := match layout.outers with
      | outer :: outers =>
          if layout.indent ≤ (column : Int) && !outer.isBlock then
            { layout with indent := outer.indent, outers }
          else layout
      | [] => layout
    if firm.indent < (column : Int) then
      let deeper := { firm with
        indent := column
        outers := ⟨firm.indent, true⟩ :: firm.outers }
      match place with
      | some place => deeper.insert place token
      | none => deeper.push token
    else firm

/-- Keeps what follows one column to the right of the present map or list. -/
def rollSoft (layout : Layout) : Layout :=
  if layout.depth = 0 && layout.isBlockIndent then
    { layout with indent := layout.indent + 1, outers := ⟨layout.indent, false⟩ :: layout.outers }
  else layout

/-- The next token may be a key. -/
def saveChance (layout : Layout) : Layout :=
  if layout.keyAllowed then
    { layout with chance := {
        isOpen := true
        required := layout.depth = 0 && layout.indent = layout.column && layout.isBlockIndent
        token := layout.tokens.size
        index := layout.cursor.index
        line := layout.cursor.line
        column := layout.cursor.column } }
  else layout

/-- There will be no key after all, which fails if nothing else may stand there. -/
def dropChance (layout : Layout) : Option Layout :=
  if layout.chance.isOpen && layout.chance.required then none
  else some { layout with chance := { layout.chance with isOpen := false } }

def allowKey (layout : Layout) (allowed : Bool) : Layout :=
  { layout with keyAllowed := allowed }

def maxKeyLength : Nat := 1024

/-- Whether the colon for a key can no longer come: outside of brackets it has to be near and on the
same line. -/
def isStale (layout : Layout) (chance : KeyChance) : Bool :=
  chance.isOpen && layout.depth = 0 &&
    (chance.line < layout.cursor.line || chance.index + maxKeyLength < layout.cursor.index)

def dropStale (layout : Layout) : Option Layout :=
  if layout.isStale layout.chance then layout.dropChance else some layout

def openBracket (layout : Layout) : Option Layout :=
  if layout.depth < maxDepth then
    some { layout with chance := {}, chances := layout.chance :: layout.chances }
  else none

def closeBracket (layout : Layout) : Layout :=
  match layout.chances with
  | [] => layout
  | chance :: chances => { layout with chance, chances }

/-- Ends the map of a single entry that began at so many open brackets. -/
def endPairing (layout : Layout) (depth : Nat) : Layout :=
  match layout.pairings with
  | .inside start :: pairings =>
      if start = depth then
        { layout with mapStarted := false, pairings := .possible :: pairings }.push .flowMappingEnd
      else layout
  | _ => layout

/-- How many tokens are settled: those before the first that may still turn out to be a key. -/
def settled (layout : Layout) : Nat :=
  ((layout.chance :: layout.chances).filter KeyChance.isOpen).foldl
    (fun least chance => min least chance.token) layout.tokens.size

end Layout

/-- A step over a part of the text, which may fail. -/
abbrev Lex := StateT Layout Option

namespace Lex

def update (change : Layout → Layout) : Lex Unit := modify change

def attempt (change : Layout → Option Layout) : Lex Unit := do
  match change (← get) with
  | some layout => set layout
  | none => failure

def require (condition : Bool) : Lex Unit :=
  if condition then return else failure

def rest : Lex (List Char) := do
  return (← get).rest

def restOfLine : Lex (List Char) := do
  return (← rest).takeWhile (· ≠ '\n')

def takeWhile (kind : Char → Bool) : Lex (List Char) := do
  let taken := (← rest).takeWhile fun c => c ≠ '\n' && kind c
  update fun layout => layout.skip taken.length
  return taken

def skipComment : Lex Unit := do
  let comment ← restOfLine
  update fun layout => layout.skipBlanks comment.length

/-- What a run of blanks was made of. -/
structure Blanks where
  tabs : Bool
  spaces : Bool

/-- Passes over blanks, tabs only if permitted, and over a comment, which must stand apart. -/
def skipToLineEnd (tabs : Bool) : Lex Blanks := do
  let blanks := (← rest).takeWhile fun c => c = ' ' || (tabs && c = '\t')
  update fun layout => layout.skipBlanks blanks.length
  if (← rest).head? = some '#' then
    require (!blanks.isEmpty)
    skipComment
  return ⟨blanks.contains '\t', blanks.contains ' '⟩

def requireLineEnd : Lex Unit := do
  require (endsLine (← rest))

/-- Passes over blanks, comments and line breaks before a token. A tab must not stand where the
indentation of an open map or list does, unless the line is empty. -/
def skipToToken : Nat → Lex Unit
  | 0 => return
  | fuel + 1 => do
      let layout ← get
      match layout.rest with
      | '\t' :: _ =>
          if !layout.outers.isEmpty && layout.cursor.fresh && layout.column < layout.indent then
            let _ ← skipToLineEnd true
            requireLineEnd
          else update fun layout => layout.skipBlanks 1
          skipToToken fuel
      | ' ' :: _ =>
          update fun layout => layout.skipBlanks 1
          skipToToken fuel
      | '\n' :: _ =>
          update fun layout =>
            let next := layout.skipLine
            if next.depth = 0 then next.allowKey true else next
          skipToToken fuel
      | '#' :: _ =>
          skipComment
          skipToToken fuel
      | _ => return

/-- Enough steps for what is left of the text. -/
def fuel : Lex Nat := do
  return (← rest).length + 1

def toToken : Lex Unit := do
  skipToToken (← fuel)

end Lex

end Gateway.Yaml
