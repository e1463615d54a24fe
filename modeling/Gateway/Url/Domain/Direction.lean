import Gateway.Text.Table

/-!
Directions of writing in names. A name with a character of a script that is written from right to
left mixes directions only as far as the order of its characters on the page stays clear:
`Direction.allows` says so for a label.
-/

namespace Gateway.Url

/-- What a character does to the direction of its surroundings. -/
inductive Direction where
  | left
  | right
  | arabic
  | europeanDigit
  | arabicDigit
  | digitSign
  | digitSeparator
  | digitTerminator
  | neutral
  | nonspacing
  | boundary
  deriving DecidableEq, Repr, Inhabited

namespace Direction

def numbered : List Direction :=
  [left, right, arabic, europeanDigit, arabicDigit, digitSign, digitSeparator, digitTerminator,
    neutral, nonspacing, boundary]

/-- Runs of directions. Characters that no name holds go with their neighbours. -/
def table : Text.PropertyTable :=
  .ofLines [
    "x a 2 8 3 7 5 8 1 5 1 6 1 5 2 6 a 3 1 6 12 8 q 0 4 8 y a 1 8 4 7 a 8 6 7 15 8 o 0 1 8 ch 0 2",
    "8 7 0 e 8 2 0 s 8 1 0 h 8 35 9 4 0 2 8 3j 0 2 8 3v 0 8 9 73 0 5 8 2 7 19 9 1 1 1 9 1 1 2 9 1",
    "1 2 9 1 1 9 9 1i 1 2 8 1 2 2 7 1 2 1 6 1 2 2 8 b 9 1c 2 l 9 a 4 1 7 2 4 3 2 1 9 2t 2 8 9 1 8",
    "6 9 2 2 2 9 1 8 4 9 2 2 a 3 n 2 1 9 u 2 t 9 2h 2 b 9 f 2 17 1 9 9 2 1 4 8 3 1 1 9 o 1 4 9 1",
    "1 9 9 1 1 3 9 1 1 7 9 15 1 5 9 2 1 1j 2 9 9 16 2 1l 9 1j 0 1 9 1 0 1 9 4 0 8 9 4 0 1 9 3 0 f",
    "9 2 0 2 9 t 0 1 9 1m 0 1 9 4 0 6 9 6 0 1 9 k 0 4 9 c 0 2 7 7 0 1 7 2 0 5 9 1l 0 2 9 3 0 r 9",
    "k 0 2 9 3 0 1 9 b 0 2 9 1l 0 1 9 4 0 8 9 4 0 3 9 i 0 4 9 b 0 8 7 1 0 8 9 1m 0 1 9 2 0 1 9 1",
    "0 6 9 6 0 a 9 b 0 4 9 s 0 1 9 1p 0 1 9 c 0 3 9 z 0 6 8 1 7 6 8 1 9 3 0 1 9 1j 0 1 9 1 0 3 9",
    "5 0 i 9 a 0 4 9 i 0 7 8 2 0 1 9 1m 0 1 9 f 0 9 9 d 0 4 9 q 0 2 9 1l 0 2 9 4 0 5 9 7 0 1 9 k",
    "0 4 9 r 0 1 9 20 0 5 9 3 0 6 9 2h 0 1 9 2 0 b 9 1 7 7 0 8 9 2q 0 1 9 2 0 9 9 b 0 8 9 20 0 2",
    "9 r 0 1 9 1 0 1 9 1 0 1 9 4 8 1f 0 e 9 1 0 5 9 1 0 2 9 5 0 1d 9 8 0 1 9 2u 0 4 9 1 0 6 9 1 0",
    "2 9 2 0 2 9 p 0 2 9 4 0 3 9 g 0 4 9 d 0 1 9 2 0 2 9 6 0 1 9 f 0 1 9 jj 0 3 9 1c 0 g 8 2o 0 1",
    "8 ii 0 5 8 36 0 3 9 t 0 2 9 u 0 e 9 i 0 e 9 1j 0 7 9 8 0 1 9 2 0 b 9 7 0 1 7 1 0 3 9 g 0 w 8",
    "39 0 2 9 y 0 1 9 3a 0 3 9 4 0 2 9 9 0 1 9 6 0 7 9 6 8 48 0 y 8 n 0 2 9 2 0 3 9 1k 0 1 9 1 0",
    "9 9 1 0 1 9 2 0 8 9 6 0 d 9 1c 0 2c 9 1c 0 1 9 1 0 5 9 1 0 1 9 5 0 1 9 14 0 9 9 c 0 2 9 w 0",
    "4 9 2 0 2 9 1 0 3 9 1k 0 1 9 1 0 2 9 3 0 1 9 1 0 3 9 1m 0 8 9 2 0 5 9 45 0 3 9 1 0 d 9 1 0 7",
    "9 4 0 1 9 6 0 1 9 3 0 2 9 5i 0 1t 9 ej 0 4 a w 8 5 7 f 8 1 6 2j 8 1c 7 1g 9 16 8 c 7 k 8 1o",
    "0 3s 8 1 5 1 7 82 8 1x 0 q 8 1 0 ly 8 1 0 9f 8 74 0 mo 8 51 0 7 8 3 0 4 9 6 0 7 8 3j 0 1 9",
    "2o 0 w 9 ed 8 3 0 p 8 9 0 4 9 2 0 1 8 6 0 4 8 2 0 4 8 2g 0 4 9 3 0 1 8 2i 0 1 8 5g 0 1c 8",
    "5hs 0 1s 8 h3k 0 1s 8 8t 0 3 8 2n 0 4 9 1 8 a 9 3 8 t 0 2 9 28 0 2 9 e 0 z 8 2t 0 1 8 3d 0 1",
    "9 3 0 1 9 4 0 1 9 p 0 2 9 1 0 4 8 4 9 8 0 8 7 1g 0 c 8 1w 0 a 9 i 0 i 9 d 0 1 9 12 0 8 9 p 0",
    "b 9 1a 0 3 9 1c 0 1 9 2 0 4 9 2 0 2 9 13 0 1 9 1v 0 6 9 2 0 2 9 2 0 b 9 3 0 1 9 8 0 1 9 1b 0",
    "1 9 1f 0 1 9 1 0 3 9 2 0 2 9 5 0 2 9 1 0 1 9 16 0 2 9 8 0 b 9 2x 0 2e 8 11 0 1 9 2 0 1 9 4 0",
    "3 9 fn2 0 44 9 h 2 gt 8 11 9 1a 8 b1 2 75 0 1 8 1q 0 25 8 3 0 1s 8 19 0 3n 9 2o 0 1 9 v 3 3a",
    "0 a 9 w0 0 7z 1 1 8 69 1 f 9 14 1 8 9 4l 1 6 9 26 1 7 8 cg 1 10 2 c 9 g 4 15 1 5 9 1 8 6p 1",
    "w 4 17 1 2 9 l 1 e 2 16 8 6 9 1c 1 m 2 b 9 v 2 i 1 4 9 3e 1 1 0 1 9 1i 0 f 9 b 0 k 8 a 0 1 9",
    "2 0 2 9 a 0 3 9 1d 0 4 9 2 0 2 9 7 0 e 9 1c 0 3 9 10 0 5 9 1 0 9 9 1p 0 1 9 c 0 2 9 1g 0 9 9",
    "a 0 4 9 2 0 1 9 2n 0 3 9 2 0 1 9 1 0 2 9 6 0 1 9 2 0 1r 9 2n 0 1 9 3 0 d 9 g 0 2 9 1l 0 2 9",
    "3 0 1 9 11 0 q 9 1n 0 7 9 c 0 1 9 1 0 1 9 1 0 1 9 e 0 v 9 1k 0 8 9 2 0 3 9 1 0 1 9 n 0 1 9",
    "2c 0 6 9 1 0 1 9 4 0 2 9 1 0 2 9 6m 0 6 9 4 0 2 9 1 0 2 9 r 0 10 9 1f 0 8 9 2 0 1 9 1 0 2 9",
    "v 0 w 8 17 0 1 9 1 0 1 9 2 0 6 9 1 0 1 9 2t 0 3 9 2 0 4 9 1 0 9 9 73 0 9 9 1 0 2 9 74 0 2 9",
    "1 0 1 9 4 0 1 9 40 0 8 9 4 0 1 9 w 0 6 9 2 0 2 9 14 0 6 9 2 0 4 9 8 0 9 9 1 0 6 9 2 0 3 9 1a",
    "0 d 9 1 0 2 9 5i 0 1 9 1 0 3 9 1 0 1 9 5l 0 e 9 2c 0 n 9 1 0 7 9 1 0 2 9 1 0 23 9 1d 0 l 9 1",
    "0 9 9 1s 0 3 9 2 0 1 9 1 0 1 9 9n 0 2 9 b 0 2 9 1g 0 8 9 2 0 1 9 1 0 1 9 n 0 2e 9 11 0 8 8 4",
    "7 u 8 401 0 1 9 6 0 p 9 8u6 0 c 9 3 0 3 9 1xc 0 5 9 1n 0 7 9 t4 0 1 9 1r 0 4 9 27 0 1 8 1 0",
    "c 9 f59 0 2 9 31d 0 lc 8 28 9 ev 0 3 9 h 0 8 9 2 0 7 9 u 0 4 9 1n 0 2h 8 3 9 3f 8 1s 0 2o 8",
    "1b4 0 1j 9 4 0 1e 9 8 0 1 9 e 0 1 9 m 0 v9 9 74 0 74 9 1c 0 7 9 af 0 i 9 18 0 4 9 f 0 cx 7 s",
    "0 4 9 72 0 2 9 6r 0 1 9 2 0 1 9 7 0 2 9 5 0 9 9 76 0 5s 1 2a 9 y 1 7 9 me 1 hr 2 gw 8 t 0 3",
    "8 1p 0 1l 8 3e 0 2ow 8"]

def of (c : Char) : Direction := numbered.getD (table.value c) left

/-- Directions that make a name one of mixed directions. -/
def isRightward (direction : Direction) : Bool :=
  direction ∈ [right, arabic, arabicDigit]

/-- Directions that fit into a label of either direction. -/
def isCommon (direction : Direction) : Bool :=
  direction ∈ [europeanDigit, digitSign, digitSeparator, digitTerminator, neutral, nonspacing,
    boundary]

/-- Whether the characters of a label may stand in a name of mixed directions: the first says which
way the label runs, the others must fit, the last one that is not a mark must be a letter or a
digit, and a label that runs to the left has digits of one kind. -/
def allows : List Direction → Bool
  | [] => true
  | first :: rest =>
      let last := (((first :: rest).reverse.dropWhile (· = nonspacing)).head?).getD first
      if first = left then
        rest.all (fun direction => direction = left || direction.isCommon) &&
          last ∈ [left, europeanDigit]
      else if first = right || first = arabic then
        rest.all (fun direction => direction.isRightward || direction.isCommon) &&
          last ∈ [right, arabic, europeanDigit, arabicDigit] &&
          !(rest.contains europeanDigit && rest.contains arabicDigit)
      else false

end Direction

end Gateway.Url
