import Gateway.Text.Composition

/-!
Composed texts: every character is taken apart, marks behind one base are put in the order of their
places, and parts are put together again as far as they go. Two texts that are shown alike become
one. Syllables of the Korean script are composed by their number, all others by the table.
-/

namespace Gateway.Text

namespace Syllable

/-- First character of each kind of part and of the syllables. -/
def leadBase : Nat := 0x1100

def vowelBase : Nat := 0x1161

/-- One before the first tail, so that syllables without a tail have the number zero. -/
def tailBase : Nat := 0x11A7

def base : Nat := 0xAC00

def leads : Nat := 19

def vowels : Nat := 21

def tails : Nat := 28

def isSyllable (code : Nat) : Bool :=
  base ≤ code && code < base + leads * vowels * tails

/-- The parts of a syllable: lead, vowel and perhaps a tail. -/
def parts (code : Nat) : List Char :=
  let index := code - base
  let front := [Char.ofNat (leadBase + index / (vowels * tails)),
    Char.ofNat (vowelBase + index % (vowels * tails) / tails)]
  if index % tails = 0 then front else front ++ [Char.ofNat (tailBase + index % tails)]

/-- The syllable of a lead and a vowel, or of a syllable and its tail. -/
def compose? (first second : Nat) : Option Char :=
  if leadBase ≤ first ∧ first < leadBase + leads ∧ vowelBase ≤ second ∧
      second < vowelBase + vowels then
    some (Char.ofNat (base + ((first - leadBase) * vowels + (second - vowelBase)) * tails))
  else if isSyllable first ∧ (first - base) % tails = 0 ∧ tailBase < second ∧
      second < tailBase + tails then
    some (Char.ofNat (first + (second - tailBase)))
  else none

end Syllable

/-- Most parts that a character of the table falls into. -/
def maxParts : Nat := 4

/-- A character in its smallest parts. -/
def takeApart : Nat → Char → List Char
  | 0, c => [c]
  | depth + 1, c =>
      if Syllable.isSyllable c.toNat then Syllable.parts c.toNat
      else
        match parts? c with
        | some (first, second) => takeApart depth first ++ [second]
        | none => [c]

/-- Puts a character behind others, which stand last one first; a mark goes before those of a higher
place. -/
def insertMark (c : Char) : List Char → List Char
  | [] => [c]
  | last :: others =>
      if markPlace c ≠ 0 ∧ markPlace c < markPlace last then last :: insertMark c others
      else c :: last :: others

/-- Puts the marks behind each base in order. -/
def sortMarks (chars : List Char) : List Char :=
  (chars.foldl (fun sorted c => insertMark c sorted) []).reverse

/-- What has been put together: finished characters, the last base and the marks behind it that it
did not take up. -/
structure Composing where
  finished : List Char := []
  base : Option Char := none
  marks : List Char := []

namespace Composing

def chars (state : Composing) : List Char :=
  state.finished ++ state.base.toList ++ state.marks

/-- Whether a character reaches the base past the marks between them. -/
def isOpen (state : Composing) (c : Char) : Bool :=
  match state.marks.getLast? with
  | none => true
  | some mark => markPlace mark < markPlace c

/-- The base together with a character, if the pair makes up one. -/
def joined? (state : Composing) (c : Char) : Option Char := do
  let base ← state.base
  if state.isOpen c then (Syllable.compose? base.toNat c.toNat).or (composite? base c) else none

def step (state : Composing) (c : Char) : Composing :=
  match state.joined? c with
  | some base => { state with base := some base }
  | none =>
      if markPlace c = 0 then ⟨state.chars, some c, []⟩
      else { state with marks := state.marks ++ [c] }

end Composing

/-- The composed form of a text without capitals. -/
def compose (chars : List Char) : List Char :=
  ((sortMarks (chars.flatMap (takeApart maxParts))).foldl Composing.step {}).chars

end Gateway.Text
