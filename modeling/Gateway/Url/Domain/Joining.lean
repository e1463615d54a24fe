import Gateway.Text.Category

/-!
Joiners in names. A character that asks its neighbours to join, or not to, may stand where it has an
effect: behind a mark that takes the vowel off a consonant, or, for the one that keeps letters
apart, between letters that would join.
-/

namespace Gateway.Url

/-- Which neighbours a letter joins with. -/
inductive Joining where
  | none
  | both
  | next
  | previous
  | transparent
  deriving DecidableEq, Repr, Inhabited

namespace Joining

def numbered : List Joining := [none, both, next, previous, transparent]

/-- Runs of joiners. Marks and characters that no name holds go with their neighbours. -/
def table : Text.PropertyTable :=
  .ofLines [
    "17k 0 1 1 1 0 4 3 1 1 1 3 1 1 1 3 5 1 4 3 d 1 1 0 7 1 1 3 n 1 e 0 3 1 3 3 5 0 f 1 i 3 12 1 1",
    "3 2 1 9 3 1 1 1 3 1 1 1 3 2 1 2 3 1 0 9 3 g 0 2 3 a 0 3 1 2 0 1 1 g 0 2 3 3 1 5 3 4 1 1 3 9",
    "1 1 3 1 1 1 3 1 1 1 3 2 1 v 3 b 1 3 3 f 1 2 3 4 1 1 3 1 1 2 3 3 1 2 3 6 1 22 0 16 1 24 0 1 3",
    "5 1 2 3 1 1 1 3 a 1 1 3 1 1 8 3 2 0 1 1 1 0 4 1 1 0 1 3 1 1 q 3 3 0 1 1 2 0 5 1 1 3 r 1 3 3",
    "1 0 1 3 2 1 2 3 6 1 1 3 f 1 30e 0 1 1 o 0 2o 1 7 0 15 1 scw 0 1e 1 1 2 jf1 0 5 1 1 3 1 0 1 3",
    "1 0 2 3 2 0 1 2 5 3 4 1 1 2 5 1 1 3 3 1 1 3 2 0 7 3 4 1 1 3 40 0 1 1 1 3 1 1 3 3 3 1 1 3 2 1",
    "1 3 1 1 2 3 1 1 8 3 g 0 4 3 2 1 9d 0 1 2 x 1 1 3 d 1 b6 0 1 3 2 1 1 0 a 1 2o 0 3 1 1 3 h 1 c",
    "0 3 1 1 3 r 0 4 1 2 3 g 1 16 0 1 1 1 0 2 1 3 3 1 0 1 1 2 3 2 1 1 3 2 1 1 0 1 1 2 3 1 1 4 0 1",
    "3 1 1 l 2 16wy 0 15 1 5 4"]

/-- How a character joins; marks that are drawn over or under it do not matter. -/
def of (c : Char) : Joining :=
  if Text.category c = .mark then transparent else numbered.getD (table.value c) none

/-- Whether the first letter that matters joins in one of some ways. -/
def reaches (ways : List Joining) (chars : List Char) : Bool :=
  match (chars.map of).dropWhile (· = transparent) with
  | joining :: _ => ways.contains joining
  | [] => false

/-- Joins letters that would not join. -/
def joiner : Char := Char.ofNat 0x200D

/-- Keeps letters apart that would join. -/
def separator : Char := Char.ofNat 0x200C

end Joining

end Gateway.Url
