import Gateway.Text.Category
import Gateway.Text.Normal
import Gateway.Text.Utf8
import Gateway.Url.Domain.Direction
import Gateway.Url.Domain.Joining
import Gateway.Url.Domain.Mapping
import Gateway.Url.Punycode

/-!
Domain names as ASCII. Every character takes its form for names, the text is composed, and labels
that are not ASCII are written in Punycode behind `xn--`; a label that comes in Punycode has to be
what its own text is written as. Names with a forbidden character, a label that starts with a mark,
a joiner without effect or mixed directions are refused.
-/

namespace Gateway.Url.Domain

/-- Characters that no name holds. -/
def isForbidden (c : Char) : Bool :=
  c.toNat ≤ 0x20 || c.toNat = 0x7F || c ∈ "%#/:<>?@[\\]^|".toList

/-- Characters with a picture that are refused: shorter writings of full stops, signs that describe
other characters and the like. -/
def refusedRanges : List (Nat × Nat) :=
  [(0x2024, 0x2026), (0x2488, 0x249B), (0x2FF0, 0x2FFF), (0x31EF, 0x31EF), (0x33C2, 0x33C2),
    (0x33C7, 0x33C7), (0x33D8, 0x33D8), (0xFE12, 0xFE12), (0xFE19, 0xFE19), (0xFE30, 0xFE30),
    (0xFE52, 0xFE52), (0xFFFC, 0xFFFD), (0x1F100, 0x1F100)]

def isJoiner (c : Char) : Bool :=
  c = Joining.joiner || c = Joining.separator

def isRefused (c : Char) : Bool :=
  128 ≤ c.toNat &&
    ((Text.category c = .unseen && !isJoiner c) ||
      refusedRanges.any fun range => range.1 ≤ c.toNat && c.toNat ≤ range.2)

/-- Whether a label stands for itself. -/
def isAscii (label : List Char) : Bool :=
  label.all fun c => c.toNat < 128

/-- The place of marks that take the vowel off a consonant. -/
def vowelKillerPlace : Nat := 9

/-- Whether every joiner has an effect between the characters before it, nearest one first, and
those behind it. -/
def joinersFit (before : List Char) : List Char → Bool
  | [] => true
  | c :: rest =>
      (!isJoiner c ||
        before.head?.any (fun last => Text.markPlace last = vowelKillerPlace) ||
        (c = Joining.separator && Joining.reaches [.both, .next] before &&
          Joining.reaches [.both, .previous] rest)) &&
      joinersFit (c :: before) rest

def isValidLabel (label : List Char) : Bool :=
  !label.head?.any Text.isMark && !label.any isRefused && joinersFit [] label

/-- The text of a label whose characters have their forms: a label behind `xn--` is read. -/
def readLabel? (label : List Char) : Option (List Char) :=
  if "xn--".toList.isPrefixOf label then do
    let text ← Punycode.decode? (label.drop 4)
    if !isAscii text && text.all (fun c => nameForm c = [c]) && Text.compose text = text &&
        isValidLabel text then some text
    else none
  else if isValidLabel label then some label
  else none

def writeLabel? (label : List Char) : Option (List Char) :=
  if isAscii label then some label
  else (Punycode.encode? label).map ("xn--".toList ++ ·)

def splitDots : List Char → List (List Char)
  | [] => [[]]
  | c :: rest =>
      match splitDots rest with
      | [] => [[c]]
      | label :: labels => if c = '.' then [] :: label :: labels else (c :: label) :: labels

/-- Whether the directions of all labels go together. -/
def directionsFit (labels : List (List Char)) : Bool :=
  let directions := labels.map fun label => label.map Direction.of
  !directions.any (fun label => label.any Direction.isRightward) ||
    directions.all Direction.allows

def toAscii? (name : String) : Option String := do
  let form := Text.compose (name.toList.flatMap nameForm)
  if form.any isForbidden then none
  else
    let labels ← (splitDots form).mapM readLabel?
    if directionsFit labels then
      let written ← labels.mapM writeLabel?
      some (String.ofList (['.'].intercalate written))
    else none

end Gateway.Url.Domain
