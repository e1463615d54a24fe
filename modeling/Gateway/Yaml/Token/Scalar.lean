import Gateway.Yaml.Token.Property

/-!
Scalars of indented documents: in quotes, plain, and as indented blocks of lines. Line breaks within
the first two are folded: one becomes a blank, and of more than one the first is dropped.
-/

namespace Gateway.Yaml.Lex

/-- What stands between two words of a scalar. -/
structure Gap where
  blanks : List Char := []
  /-- A line was left for another. -/
  broken : Bool := false
  /-- Line breaks behind the first, which may have been escaped. -/
  more : Nat := 0
  /-- The first line break was escaped. -/
  escaped : Bool := false

def Gap.text (gap : Gap) : List Char :=
  if !gap.broken then gap.blanks
  else if gap.escaped || 0 < gap.more then List.replicate gap.more '\n'
  else [' ']

def Gap.addBreak (gap : Gap) : Gap :=
  if gap.broken then { gap with more := gap.more + 1 } else { gap with broken := true }

/-- Reads blanks and line breaks between words in quotes. -/
def quotedGap : Nat → Gap → Lex Gap
  | 0, gap => return gap
  | fuel + 1, gap => do
      let layout ← get
      match layout.rest with
      | '\n' :: _ =>
          update Layout.skipLine
          quotedGap fuel gap.addBreak
      | c :: _ =>
          if isBlank c then
            require (!(gap.broken && c = '\t' && layout.column < layout.indent))
            update fun layout => layout.skipBlanks 1
            quotedGap fuel (if gap.broken then gap else { gap with blanks := gap.blanks ++ [c] })
          else return gap
      | [] => return gap

def simpleEscape? (c : Char) : Option Nat :=
  ([('0', 0), ('a', 7), ('b', 8), ('t', 9), ('\t', 9), ('n', 10), ('v', 11), ('f', 12), ('r', 13),
    ('e', 27), (' ', 32), ('"', 34), ('/', 47), ('\\', 92), ('N', 0x85), ('_', 0xA0),
    ('L', 0x2028), ('P', 0x2029)].find? fun pair => pair.1 = c).map Prod.snd

/-- How many hexadecimal digits follow the letter of an escape. -/
def escapeWidth? (c : Char) : Option Nat :=
  if c = 'x' then some 2 else if c = 'u' then some 4 else if c = 'U' then some 8 else none

def hexNumber? (digits : List Char) : Option Nat :=
  digits.foldlM (fun (value : Nat) c => (hexValue? c).map (value * 16 + ·)) 0

def escape : Lex Char := do
  match (← rest).drop 1 with
  | [] => failure
  | c :: more =>
      match simpleEscape? c, escapeWidth? c with
      | some code, _ =>
          update fun layout => layout.skip 2
          return Char.ofNat code
      | none, some width =>
          let digits := more.take width
          match hexNumber? digits with
          | some code =>
              require (digits.length = width && code.isValidChar)
              update fun layout => layout.skip (2 + width)
              return Char.ofNat code
          | none => failure
      | none, none => failure

def quote (single : Bool) : Char := if single then Char.ofNat 39 else '"'

/-- Reads a word in quotes onto a text. An escaped line break ends the word. -/
def quotedWord (single : Bool) : Nat → String → Lex (String × Bool)
  | 0, text => return (text, false)
  | fuel + 1, text => do
      match ← rest with
      | [] => return (text, false)
      | c :: more =>
          if isBlank c || c = '\n' then return (text, false)
          else if single && c = quote true && more.head? = some (quote true) then
            update fun layout => layout.skip 2
            quotedWord single fuel (text.push c)
          else if c = quote single then return (text, false)
          else if !single && c = '\\' then
            if more.head? = some '\n' then
              update fun layout => (layout.skip 1).skipLine
              return (text, true)
            else quotedWord single fuel (text.push (← escape))
          else
            update fun layout => layout.skip 1
            quotedWord single fuel (text.push c)

/-- Reads words in quotes onto a text, up to the closing quote. -/
def quotedWords (single : Bool) : Nat → String → Lex String
  | 0, _ => failure
  | fuel + 1, text => do
      let layout ← get
      require (!(layout.cursor.column = 0 && layout.cursor.atMarker))
      require (!layout.rest.isEmpty && !(layout.column < layout.indent))
      let (text, escaped) ← quotedWord single (← Lex.fuel) text
      if (← rest).head? = some (quote single) then return text
      else
        let gap ← quotedGap (← Lex.fuel) { broken := escaped, escaped }
        quotedWords single fuel (text ++ String.ofList gap.text)

/-- A scalar in quotes. Outside of brackets only the end of its line may follow, or a colon if the
scalar is on one line. -/
def quoted (single : Bool) : Lex Token := do
  let line := (← get).cursor.line
  update fun layout => layout.skip 1
  let text ← quotedWords single (← Lex.fuel) ""
  update fun layout => layout.skip 1
  let _ ← skipToLineEnd true
  let layout ← get
  let inBrackets : Bool := 0 < layout.depth
  require (endsLine layout.rest ||
    match layout.rest with
    | ':' :: _ => inBrackets || layout.cursor.line = line
    | c :: _ => inBrackets && c ∈ ",]\x7d".toList
    | [] => true)
  return .scalar (if single then .singleQuoted else .doubleQuoted) text

/-- Whether the characters go on with a plain scalar. -/
def isPlainNext (inBrackets : Bool) : List Char → Bool
  | [] => false
  | c :: rest =>
      !isBlank c && c ≠ '\n' &&
        !(c = ':' && (endsWord rest || (inBrackets && rest.head?.any isFlowIndicator))) &&
        !(inBrackets && isFlowIndicator c)

def plainWord (inBrackets : Bool) : List Char → List Char
  | [] => []
  | c :: rest => if isPlainNext inBrackets (c :: rest) then c :: plainWord inBrackets rest else []

/-- Reads blanks and line breaks between words of a plain scalar. A tab must not stand left of where
the scalar may go on, unless the line is empty. -/
def plainGap (least : Int) : Nat → Gap → Lex Gap
  | 0, gap => return gap
  | fuel + 1, gap => do
      let layout ← get
      match layout.rest with
      | '\n' :: _ =>
          update Layout.skipLine
          plainGap least fuel gap.addBreak
      | c :: _ =>
          if isBlank c then
            if !layout.cursor.fresh then
              update fun layout => layout.skipBlanks 1
              plainGap least fuel { gap with blanks := gap.blanks ++ [c] }
            else if c = '\t' && layout.column < least then
              let _ ← skipToLineEnd true
              requireLineEnd
              plainGap least fuel gap
            else
              update fun layout => layout.skipBlanks 1
              plainGap least fuel gap
          else return gap
      | [] => return gap

/-- Reads words of a plain scalar onto a text, as long as they stand far enough to the right. -/
def plainWords (least : Int) : Nat → String → Gap → Lex String
  | 0, text, _ => return text
  | fuel + 1, text, gap => do
      let layout ← get
      let inBrackets : Bool := 0 < layout.depth
      if (layout.cursor.fresh && layout.cursor.atMarker) || layout.rest.head? = some '#' then
        return text
      else
        require (!(inBrackets && layout.rest.head? = some '-' &&
          layout.rest[1]?.any isFlowIndicator))
        let word := plainWord inBrackets layout.rest
        let text := if word.isEmpty then text
          else text ++ String.ofList gap.text ++ String.ofList word
        update fun layout => if word.isEmpty then layout else layout.skip word.length
        if !(← rest).head?.any fun c => isBlank c || c = '\n' then return text
        else
          let gap ← plainGap least (← Lex.fuel) {}
          let layout ← get
          if !inBrackets && layout.column < least then return text
          else plainWords least fuel text gap

def plain : Lex Token := do
  update Layout.unrollSoft
  let layout ← get
  let least := layout.indent + 1
  require (layout.depth = 0 || least ≤ layout.column)
  let text ← plainWords least (← Lex.fuel) "" {}
  update fun layout => if layout.cursor.fresh then layout.allowKey true else layout
  require (text ≠ "")
  return .scalar .plain text

/-- What happens to the line breaks at the end of a block. -/
inductive Chomping where
  | clip
  | strip
  | keep
  deriving DecidableEq

def chomping? : Lex (Option Chomping) := do
  match ← rest with
  | '+' :: _ =>
      update fun layout => layout.skip 1
      return some .keep
  | '-' :: _ =>
      update fun layout => layout.skip 1
      return some .strip
  | _ => return none

/-- How far a block is indented, zero if its header does not say so. -/
def increment : Lex Nat := do
  match ← rest with
  | c :: _ =>
      if c.isDigit then
        require (c ≠ '0')
        update fun layout => layout.skip 1
        return c.toNat - 48
      else return 0
  | [] => return 0

/-- The header of a block: the two parts in either order. -/
def blockHeader : Lex (Chomping × Nat) := do
  match ← chomping? with
  | some chomping => return (chomping, ← increment)
  | none =>
      let indent ← increment
      return ((← chomping?).getD .clip, indent)

/-- Skips blanks up to a column, and lines that hold no more. The result counts their breaks. -/
def blockIndent (indent : Nat) : Nat → Nat → Lex Nat
  | 0, breaks => return breaks
  | fuel + 1, breaks => do
      let layout ← get
      let blanks := (layout.rest.takeWhile (· = ' ')).length
      update fun layout => layout.skipBlanks (min blanks (indent - layout.cursor.column))
      if (← rest).head? = some '\n' then
        update Layout.skipLine
        blockIndent indent fuel (breaks + 1)
      else return breaks

/-- Skips all blanks and empty lines. The result is the greatest column and the number of breaks. -/
def deepestIndent : Nat → Nat → Nat → Lex (Nat × Nat)
  | 0, deepest, breaks => return (deepest, breaks)
  | fuel + 1, deepest, breaks => do
      let blanks := (← rest).takeWhile (· = ' ')
      update fun layout => layout.skipBlanks blanks.length
      let deepest := max deepest (← get).cursor.column
      if (← rest).head? = some '\n' then
        update Layout.skipLine
        deepestIndent fuel deepest (breaks + 1)
      else return (deepest, breaks)

structure BlockText where
  text : String := ""
  /-- The last line was ended by a break. -/
  broken : Bool := false
  /-- Empty lines since. -/
  breaks : Nat := 0
  /-- The last line began with a blank. -/
  indented : Bool := false

/-- The block with one more line, which a line break or, in a folded block, a blank parts from the
line before. -/
def BlockText.addLine (block : BlockText) (literal : Bool) (line : List Char) : BlockText :=
  let indented := line.head?.any isBlank
  let fold := !literal && block.broken && !block.indented && !indented
  let between :=
    if fold && block.breaks = 0 then [' ']
    else
      List.replicate ((if block.broken && !fold then 1 else 0) + block.breaks) '\n'
  { text := block.text ++ String.ofList between ++ String.ofList line
    broken := false
    breaks := 0
    indented }

def blockLines (literal : Bool) (indent : Nat) : Nat → BlockText → Lex BlockText
  | 0, block => return block
  | fuel + 1, block => do
      let layout ← get
      if layout.cursor.column ≠ indent || layout.rest.isEmpty ||
          (indent = 0 && layout.cursor.atWord "...") then
        return block
      else
        let line ← restOfLine
        update fun layout => layout.skip line.length
        let block := block.addLine literal line
        if (← rest).isEmpty then return block
        else
          update Layout.skipLine
          let breaks ← blockIndent indent (← Lex.fuel) 0
          blockLines literal indent fuel { block with broken := true, breaks }

/-- The end of a block. A last line of blanks that reaches the column of the block counts as one. -/
def BlockText.finish (block : BlockText) (chomping : Chomping) (indent : Nat) (cursor : Cursor) :
    String :=
  let isCut := cursor.rest.isEmpty && max indent 1 ≤ cursor.column
  let ending := (if block.broken then 1 else 0) + (if isCut then 1 else 0)
  let count := match chomping with
    | .strip => 0
    | .clip => ending
    | .keep => ending + block.breaks
  block.text ++ String.ofList (List.replicate count '\n')

/-- A block of lines. Without lines only the breaks behind its header are left. -/
def block (literal : Bool) : Lex Token := do
  let style := if literal then Style.literal else Style.folded
  let start := (← get).cursor.line
  update fun layout => layout.skip 1
  update Layout.unrollSoft
  let (chomping, increment) ← blockHeader
  let _ ← skipToLineEnd true
  requireLineEnd
  update Layout.skipLine
  require ((← rest).head? ≠ some '\t')
  let outer := (← get).indent
  let (indent, breaks) ←
    if increment = 0 then do
      let (deepest, breaks) ← deepestIndent (← Lex.fuel) 0 0
      pure (max (max deepest (outer + 1).toNat) (if 0 < outer then 1 else 0), breaks)
    else do
      let indent := (max outer 0).toNat + increment
      pure (indent, ← blockIndent indent (← Lex.fuel) 0)
  let layout ← get
  if layout.rest.isEmpty then
    let count := match chomping with
      | .strip => 0
      | .clip => 1
      | .keep => max breaks 1
    let count := if layout.cursor.line = start then 0 else count
    return .scalar style (String.ofList (List.replicate count '\n'))
  else
    require (!(layout.cursor.column < indent && outer < layout.column))
    let block ← blockLines literal indent (← Lex.fuel) { breaks }
    return .scalar style (block.finish chomping indent (← get).cursor)

end Gateway.Yaml.Lex
