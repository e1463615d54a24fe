/-!
The place in a text: what is left of it, and where on which line it stands. Line breaks are single
characters here.
-/

namespace Gateway.Yaml

def isBlank (c : Char) : Bool := c = ' ' || c = '\t'

def isFlowIndicator (c : Char) : Bool := c ∈ ",[]\x7b\x7d".toList

/-- Whether the characters start with a blank or a line break, or there are none. -/
def endsWord : List Char → Bool
  | [] => true
  | c :: _ => isBlank c || c = '\n'

/-- Whether the characters start with a line break, or there are none. -/
def endsLine : List Char → Bool
  | [] => true
  | c :: _ => c = '\n'

structure Cursor where
  rest : List Char
  /-- How many characters came before. -/
  index : Nat := 0
  line : Nat := 0
  column : Nat := 0
  /-- Nothing but blanks came before on the line. -/
  fresh : Bool := true

namespace Cursor

/-- The cursor behind some characters that are no line breaks. Blanks and comments leave the line as
fresh as it was. -/
def advance (cursor : Cursor) (count : Nat) (isInk : Bool) : Cursor :=
  { cursor with
    rest := cursor.rest.drop count
    index := cursor.index + count
    column := cursor.column + count
    fresh := cursor.fresh && !isInk }

def advanceLine (cursor : Cursor) : Cursor :=
  match cursor.rest with
  | '\n' :: rest =>
      { rest, index := cursor.index + 1, line := cursor.line + 1, column := 0, fresh := true }
  | _ => cursor

/-- Whether three characters stand here as a word of their own. -/
def atWord (cursor : Cursor) (word : String) : Bool :=
  word.toList.isPrefixOf cursor.rest && endsWord (cursor.rest.drop 3)

def atMarker (cursor : Cursor) : Bool := cursor.atWord "---" || cursor.atWord "..."

end Cursor

def normalizeBreaks : List Char → List Char
  | [] => []
  | '\r' :: '\n' :: rest => '\n' :: normalizeBreaks rest
  | '\r' :: rest => '\n' :: normalizeBreaks rest
  | c :: rest => c :: normalizeBreaks rest

/-- The text that is read: a byte order mark at its start is skipped, and it ends at a null. -/
def content (text : String) : List Char :=
  let chars := normalizeBreaks text.toList
  let marked := if chars.head?.any fun c => c.toNat = 0xFEFF then chars.drop 1 else chars
  marked.takeWhile fun c => c.toNat ≠ 0

end Gateway.Yaml
