import Gateway.Text.Utf8
import Gateway.Yaml.Token.Layout

/-!
What stands before the content of a node or a document: names, tags and directives.
-/

namespace Gateway.Yaml.Lex

def isNameChar (c : Char) : Bool :=
  !isBlank c && !isFlowIndicator c && c.toNat ≠ 0xFEFF

def name : Lex String := do
  update fun layout => layout.skip 1
  let chars ← takeWhile isNameChar
  require (!chars.isEmpty)
  return String.ofList chars

def isWordChar (c : Char) : Bool := c.isAlphanum || c = '_' || c = '-'

def isUriChar (c : Char) : Bool :=
  c.isAlphanum || c = '-' || c ∈ "#;/?:@&=+$,_.!~*'()[]%".toList

/-- Characters of the part of a tag behind its handle. -/
def isSuffixChar (c : Char) : Bool :=
  isUriChar c && !isFlowIndicator c && c ≠ '!'

def hexValue? (c : Char) : Option Nat :=
  if c.isDigit then some (c.toNat - 48)
  else if 'a' ≤ c.toLower ∧ c.toLower ≤ 'f' then some (c.toLower.toNat - 87)
  else none

/-- A byte that is written with a percent sign. -/
def escapedByte : Lex Nat := do
  match ← rest with
  | '%' :: high :: low :: _ =>
      match hexValue? high, hexValue? low with
      | some high, some low =>
          update fun layout => layout.skip 3
          return high * 16 + low
      | _, _ => failure
  | _ => failure

/-- A character that is written with percent signs. A pair of bytes stands for the character whose
number the two make up; more bytes than two are always too many. -/
def escapedChar : Lex Char := do
  let first ← escapedByte
  if first < 0x80 then return Char.ofNat first
  else
    require (0xC0 ≤ first && first < 0xE0)
    let second ← escapedByte
    let code := first * 256 + second
    require (0x80 ≤ second && second < 0xC0 && code.isValidChar)
    return Char.ofNat code

def tagChars (kind : Char → Bool) : Nat → List Char → Lex (List Char)
  | 0, taken => return taken
  | fuel + 1, taken => do
      match ← rest with
      | c :: _ =>
          if !kind c then return taken
          else if c = '%' then tagChars kind fuel (taken ++ [← escapedChar])
          else
            update fun layout => layout.skip 1
            tagChars kind fuel (taken ++ [c])
      | [] => return taken

def tagText (kind : Char → Bool) (start : List Char) : Lex String := do
  return String.ofList (← tagChars kind (← fuel) start)

/-- The handle of a tag: `!`, `!!`, or a word between two marks. Without the second mark the word
belongs to what follows. -/
def handle : Lex (List Char) := do
  require ((← rest).head? = some '!')
  update fun layout => layout.skip 1
  let word ← takeWhile isWordChar
  if (← rest).head? = some '!' then
    update fun layout => layout.skip 1
    return '!' :: word ++ ['!']
  else return '!' :: word

def verbatimTag : Lex Token := do
  update fun layout => layout.skip 2
  let suffix ← tagText isUriChar []
  require ((← rest).head? = some '>')
  update fun layout => layout.skip 1
  return .tag "" suffix

/-- A tag of a handle and what follows it. -/
def shortTag : Lex Token := do
  let handle ← handle
  if 2 ≤ handle.length && handle.getLast? = some '!' then
    let suffix ← tagText isSuffixChar []
    require (suffix ≠ "")
    return .tag (String.ofList handle) suffix
  else
    let suffix ← tagText isSuffixChar (handle.drop 1)
    return if suffix = "" then .tag "" "!" else .tag "!" suffix

/-- A tag, which has to stand apart from what follows. -/
def tag : Lex Token := do
  let token ← if (← rest)[1]? = some '<' then verbatimTag else shortTag
  let next ← rest
  require (endsWord next || (0 < (← get).depth && next.head?.any isFlowIndicator))
  return token

/-- Reads a name or a tag, which may be part of a key. -/
def property (read : Lex Token) : Lex Unit := do
  let column := (← get).cursor.column
  update Layout.saveChance
  update fun layout => layout.allowKey false
  let token ← read
  update fun layout => { layout.push token with property := some column }

def maxVersionDigits : Nat := 9

def versionNumber : Lex Unit := do
  let digits ← takeWhile Char.isDigit
  require (!digits.isEmpty && digits.length ≤ maxVersionDigits)

def directiveValue (word : String) : Lex Token := do
  if word = "YAML" then
    let _ ← takeWhile isBlank
    versionNumber
    require ((← rest).head? = some '.')
    update fun layout => layout.skip 1
    versionNumber
    return .versionDirective
  else if word = "TAG" then
    let _ ← takeWhile isBlank
    let handle ← handle
    require (handle = ['!'] || (handle.drop 1).getLast? = some '!')
    let _ ← takeWhile isBlank
    let stem ←
      match ← rest with
      | '!' :: _ => do
          update fun layout => layout.skip 1
          tagText isUriChar ['!']
      | c :: _ => do
          require (isSuffixChar c)
          tagText isUriChar []
      | [] => failure
    require (endsWord (← rest))
    return .tagDirective (String.ofList handle) stem
  else
    skipComment
    return .tagDirective "" ""

def directive : Lex Token := do
  update fun layout => layout.skip 1
  let word ← takeWhile isWordChar
  require (!word.isEmpty && endsWord (← rest))
  let token ← directiveValue (String.ofList word)
  let _ ← skipToLineEnd true
  requireLineEnd
  update Layout.skipLine
  return token

end Gateway.Yaml.Lex
