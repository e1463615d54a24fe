import Gateway.Text.Table

/-!
What characters are when they are shown: characters that have no picture of their own (controls,
format characters, separators, private and unassigned places), marks that are drawn over or under
the character before them, marks that are drawn beside it, marks that do so as a part of its letter,
and all others.
-/

namespace Gateway.Text

inductive Category where
  | picture
  | unseen
  | mark
  | spacingMark
  | letterMark
  deriving DecidableEq, Repr, Inhabited

/-- Runs of pictures (0), unseen characters (1), marks (2), spacing marks (3) and marks that are a
part of a letter (4). -/
def categoryTable : PropertyTable :=
  .ofLines [
    "x 1 2m 0 y 1 c 0 1 1 gi 0 34 2 8 0 2 1 6 0 4 1 7 0 1 1 1 0 1 1 k 0 1 1 68 0 7 2 4m 0 1 1 12",
    "0 2 1 1e 0 2 1 3 0 1 1 19 2 1 0 1 2 1 0 2 2 1 0 2 2 1 0 1 2 8 1 r 0 4 1 6 0 h 1 a 0 b 2 1 0",
    "1 1 1a 0 l 2 g 0 1 2 2t 0 7 2 1 1 1 0 6 2 2 0 2 2 1 0 4 2 w 0 2 1 1 0 1 2 u 0 r 2 2 1 2h 0 b",
    "2 1 0 e 1 17 0 9 2 7 0 2 1 1 2 o 0 4 2 1 0 9 2 1 0 3 2 1 0 5 2 2 1 f 0 1 1 p 0 3 2 2 1 1 0 1",
    "1 b 0 5 1 w 0 7 1 9 2 16 0 o 2 1 1 w 2 1 3 1i 0 1 2 1 3 1 2 1 0 3 3 8 2 4 3 1 2 2 3 1 0 7 2",
    "a 0 2 2 t 0 1 2 2 3 1 1 8 0 2 1 2 0 2 1 m 0 1 1 7 0 1 1 1 0 3 1 4 0 2 1 1 2 1 0 1 4 2 3 4 2",
    "2 1 2 3 2 1 2 3 1 2 1 0 8 1 1 4 4 1 2 0 1 1 3 0 2 2 2 1 o 0 1 2 2 1 2 2 1 3 1 1 6 0 4 1 2 0",
    "2 1 m 0 1 1 7 0 1 1 2 0 1 1 2 0 1 1 2 0 2 1 1 2 1 1 3 3 2 2 4 1 2 2 2 1 3 2 3 1 1 2 7 1 4 0",
    "1 1 1 0 7 1 a 0 2 2 3 0 1 2 1 0 a 1 2 2 1 3 1 1 9 0 1 1 3 0 1 1 m 0 1 1 7 0 1 1 2 0 1 1 5 0",
    "2 1 1 2 1 0 3 3 5 2 1 1 2 2 1 3 1 1 2 3 1 2 2 1 1 0 f 1 2 0 2 2 2 1 c 0 7 1 1 0 6 2 1 1 1 2",
    "2 3 1 1 8 0 2 1 2 0 2 1 m 0 1 1 7 0 1 1 2 0 1 1 5 0 2 1 1 2 1 0 1 4 1 2 1 3 4 2 2 1 2 3 2 1",
    "2 3 1 2 7 1 2 2 1 4 4 1 2 0 1 1 3 0 2 2 2 1 i 0 a 1 1 2 1 0 1 1 6 0 3 1 3 0 1 1 4 0 3 1 2 0",
    "1 1 1 0 1 1 2 0 3 1 2 0 3 1 3 0 3 1 c 0 4 1 1 4 1 3 1 2 2 3 3 1 3 3 1 1 3 3 1 2 2 1 1 0 6 1",
    "1 4 e 1 l 0 5 1 1 2 3 3 1 2 8 0 1 1 3 0 1 1 n 0 1 1 g 0 2 1 1 2 1 0 3 2 4 3 1 1 3 2 1 1 4 2",
    "7 1 2 2 1 1 3 0 1 1 2 0 2 1 2 0 2 2 2 1 a 0 7 1 a 0 1 2 2 3 9 0 1 1 3 0 1 1 n 0 1 1 a 0 1 1",
    "5 0 2 1 1 2 1 0 1 3 1 2 1 4 1 3 1 4 2 3 1 1 1 2 2 4 1 1 2 4 2 2 7 1 2 4 5 1 3 0 1 1 2 0 2 2",
    "2 1 a 0 1 1 2 0 1 3 c 1 2 2 2 3 9 0 1 1 3 0 1 1 15 0 2 2 1 0 1 4 2 3 4 2 1 1 3 3 1 1 3 3 1 2",
    "2 0 4 1 3 0 1 4 a 0 2 2 2 1 q 0 1 1 1 2 2 3 1 1 i 0 3 1 o 0 1 1 9 0 1 1 1 0 2 1 7 0 3 1 1 2",
    "4 1 1 4 2 3 3 2 1 1 1 2 1 1 7 3 1 4 6 1 a 0 2 1 2 3 1 0 c 1 1c 0 1 2 2 0 7 2 4 1 8 0 8 2 d 0",
    "11 1 2 0 1 1 1 0 1 1 5 0 1 1 o 0 1 1 1 0 1 1 a 0 1 2 2 0 9 2 1 0 2 1 5 0 1 1 1 0 1 1 7 2 1 1",
    "a 0 2 1 4 0 w 1 o 0 2 2 r 0 1 2 1 0 1 2 1 0 1 2 4 0 2 3 8 0 1 1 10 0 4 1 e 2 1 3 5 2 1 0 2 2",
    "5 0 b 2 1 1 10 2 1 1 8 0 1 2 6 0 1 1 d 0 11 1 17 0 2 3 4 2 1 3 6 2 1 3 2 2 2 3 2 2 n 0 2 3 2",
    "2 4 0 3 2 1 0 3 3 2 0 7 3 3 0 4 2 d 0 1 2 2 3 2 2 6 3 1 2 1 0 1 3 a 0 3 3 1 2 14 0 1 1 1 0 5",
    "1 1 0 2 1 ah 0 1 1 4 0 2 1 7 0 1 1 1 0 1 1 4 0 2 1 15 0 1 1 4 0 2 1 x 0 1 1 4 0 2 1 7 0 1 1",
    "1 0 1 1 4 0 2 1 f 0 1 1 1l 0 1 1 4 0 2 1 1v 0 2 1 3 2 t 0 3 1 q 0 6 1 2e 0 2 1 6 0 2 1 hs 0",
    "1 1 s 0 3 1 2h 0 7 1 i 0 3 2 1 4 9 1 j 0 2 2 1 4 2 0 9 1 i 0 2 2 c 1 d 0 1 1 3 0 1 1 2 2 c 1",
    "1g 0 2 2 1 3 7 2 8 3 1 2 2 3 b 2 9 0 1 2 2 1 a 0 6 1 a 0 6 1 b 0 3 2 1 1 1 2 a 0 6 1 2h 0 7",
    "1 5 0 2 2 y 0 1 2 1 0 5 1 1y 0 a 1 v 0 1 1 3 2 4 3 2 2 3 3 4 1 2 3 1 2 6 3 3 2 4 1 1 0 3 1",
    "16 0 2 1 5 0 b 1 18 0 4 1 q 0 6 1 b 0 3 1 1l 0 2 2 2 3 1 2 2 1 1j 0 1 3 1 2 1 3 7 2 1 1 1 2",
    "1 3 1 2 2 3 8 2 6 3 a 2 2 1 1 2 a 0 6 1 a 0 6 1 e 0 2 1 1a 2 2 1 c 2 k 1 4 2 1 3 1b 0 1 2 1",
    "4 5 2 1 4 1 2 1 4 4 3 1 2 2 4 8 0 1 1 t 0 9 2 c 0 2 2 1 3 u 0 1 3 4 2 2 3 2 2 1 4 3 2 1k 0 1",
    "2 1 3 2 2 3 3 1 2 1 3 3 2 2 4 8 1 14 0 8 3 8 2 2 3 2 2 3 1 f 0 3 1 1q 0 5 1 17 0 2 1 b 0 8 1",
    "3 2 1 0 d 2 1 3 7 2 4 0 1 2 6 0 1 2 2 0 1 3 2 2 1 0 5 1 5c 0 1s 2 7q 0 2 1 6 0 2 1 12 0 2 1",
    "6 0 2 1 8 0 1 1 1 0 1 1 1 0 1 1 1 0 1 1 v 0 2 1 1h 0 1 1 f 0 1 1 e 0 2 1 6 0 1 1 j 0 2 1 3 0",
    "1 1 9 0 h 1 o 0 8 1 1b 0 h 1 2 0 2 1 r 0 1 1 d 0 3 1 y 0 e 1 x 2 f 1 3w 0 4 1 ii 0 m 1 b 0 l",
    "1 1ec 0 2 1 ah 0 3 2 2 0 5 1 19 0 1 1 1 0 5 1 1 0 2 1 1k 0 7 1 2 0 e 1 1 2 n 0 9 1 7 0 1 1 7",
    "0 1 1 7 0 1 1 7 0 1 1 7 0 1 1 7 0 1 1 7 0 1 1 7 0 1 1 w 2 2m 0 y 1 q 0 1 1 2h 0 c 1 5y 0 q 1",
    "g 0 1 1 15 0 4 2 2 4 g 0 1 1 2e 0 2 1 2 2 2t 0 5 1 17 0 1 1 2m 0 1 1 2e 0 9 1 1c 0 1 1 mlp 0",
    "3 1 1j 0 9 1 9o 0 k 1 1b 0 4 2 1 0 a 2 w 0 2 2 28 0 2 2 6 0 8 1 65 0 k 1 h 0 1 2 3 0 1 2 4 0",
    "1 2 n 0 2 3 2 2 1 3 4 0 1 2 3 1 a 0 6 1 1k 0 8 1 2 3 1e 0 g 3 2 2 8 1 c 0 6 1 i 2 d 0 1 2 12",
    "0 8 2 p 0 b 2 1 3 1 4 b 1 u 0 3 1 3 2 1 3 1b 0 1 2 2 3 4 2 2 3 2 2 2 3 1 4 d 0 1 1 b 0 4 1 7",
    "0 1 2 p 0 1 1 15 0 6 2 2 3 2 2 2 3 2 2 9 1 3 0 1 2 8 0 1 2 1 3 2 1 a 0 2 1 v 0 1 3 1 2 1 3",
    "1e 0 1 2 1 0 3 2 2 0 2 2 5 0 2 2 1 0 1 2 1 0 o 1 g 0 1 3 2 2 2 3 5 0 1 3 1 2 a 1 6 0 2 1 6 0",
    "2 1 6 0 9 1 7 0 1 1 7 0 1 1 1o 0 4 1 37 0 2 3 1 2 2 3 1 2 2 3 1 0 1 3 1 2 2 1 a 0 6 1 8mc 0",
    "c 1 n 0 4 1 1d 0 6is 1 a6 0 2 1 2y 0 12 1 7 0 c 1 5 0 5 1 1 0 1 2 o 0 1 1 5 0 1 1 1 0 1 1 2",
    "0 1 1 2 0 1 1 i2 0 w 1 g 0 g 2 a 0 6 1 g 2 z 0 1 1 j 0 1 1 4 0 4 1 5 0 1 1 3r 0 4 1 5a 0 3 1",
    "6 0 2 1 6 0 2 1 6 0 2 1 3 0 3 1 7 0 1 1 7 0 d 1 2 0 2 1 c 0 1 1 q 0 1 1 j 0 1 1 2 0 1 1 f 0",
    "2 1 e 0 y 1 3f 0 5 1 3 0 4 1 19 0 3 1 2g 0 1 1 d 0 3 1 1 0 1b 1 19 0 1 2 3m 1 t 0 3 1 1d 0 f",
    "1 1 2 r 0 4 1 10 0 9 1 u 0 5 1 12 0 5 2 5 1 u 0 1 1 11 0 4 1 e 0 16 1 4e 0 2 1 a 0 6 1 10 0",
    "4 1 10 0 4 1 14 0 8 1 1g 0 b 1 c 0 1 1 f 0 1 1 7 0 1 1 2 0 1 1 b 0 1 1 f 0 1 1 7 0 1 1 2 0 3",
    "1 1g 0 c 1 8n 0 9 1 m 0 a 1 8 0 o 1 6 0 1 1 16 0 1 1 9 0 1x 1 6 0 2 1 1 0 1 1 18 0 1 1 2 0 3",
    "1 1 0 2 1 n 0 1 1 20 0 8 1 9 0 1c 1 j 0 1 1 2 0 5 1 x 0 3 1 r 0 5 1 r 0 12 1 1k 0 4 1 k 0 2",
    "1 1b 0 3 2 1 1 2 2 5 1 4 2 4 0 1 1 3 0 1 1 t 0 2 1 3 2 4 1 1 2 9 0 7 1 9 0 7 1 1s 0 w 1 11 0",
    "2 2 4 1 c 0 9 1 1i 0 3 1 t 0 2 1 r 0 5 1 q 0 7 1 4 0 c 1 7 0 28 1 21 0 1j 1 1f 0 d 1 1f 0 7",
    "1 16 0 4 2 8 1 a 0 6 1 12 0 3 1 5 2 o 0 8 1 2 0 5s 1 v 0 1 1 16 0 1 1 2 2 1 0 2 1 2 0 g 1 6",
    "0 8 1 9 0 x 1 6 2 14 0 8 1 m 0 b 2 9 0 m 1 i 0 4 2 4 0 12 1 s 0 k 1 n 0 9 1 1 3 1 2 1 3 1h 0",
    "f 2 7 0 4 1 u 0 1 2 2 0 2 2 1 0 9 1 3 2 1 3 19 0 3 3 4 2 2 3 2 2 2 0 1 1 4 0 1 2 d 1 p 0 7 1",
    "a 0 6 1 3 2 10 0 5 2 1 3 8 2 1 1 f 0 2 3 1 0 8 1 z 0 1 2 3 0 9 1 2 2 1 3 1c 0 3 3 9 2 1 3 1",
    "4 8 0 4 2 1 0 1 3 1 2 g 0 1 1 k 0 b 1 i 0 1 1 p 0 3 3 3 2 2 3 1 2 1 4 2 2 6 0 1 2 2 0 1 2 1q",
    "1 7 0 1 1 1 0 1 1 4 0 1 1 f 0 1 1 b 0 6 1 1b 0 1 2 3 3 8 2 5 1 a 0 6 1 2 2 2 3 1 1 8 0 2 1 2",
    "0 2 1 m 0 1 1 7 0 1 1 2 0 1 1 5 0 1 1 2 2 1 0 1 4 1 3 1 2 4 3 2 1 2 3 2 1 2 3 1 4 2 1 1 0 6",
    "1 1 4 5 1 5 0 2 3 2 1 7 2 3 1 5 2 b 1 a 0 1 1 1 0 2 1 1 0 1 1 12 0 1 1 1 0 1 4 2 3 6 2 1 1 1",
    "4 2 1 1 4 1 1 3 4 1 3 1 1 2 3 1 2 1 4 1 2 1 0 1 2 3 0 1 1 2 0 8 1 2 2 t 1 1h 0 3 3 8 2 2 3 3",
    "2 1 3 1 2 l 0 1 1 1 0 1 2 3 0 u 1 1c 0 1 4 2 3 6 2 1 3 1 2 2 3 1 4 1 3 2 2 1 3 2 2 4 0 8 1 a",
    "0 4m 1 1b 0 1 4 2 3 4 2 2 1 4 3 2 2 1 3 2 2 r 0 2 2 y 1 1c 0 3 3 8 2 2 3 1 2 1 3 2 2 4 0 b 1",
    "a 0 6 1 d 0 j 1 17 0 1 2 1 3 1 2 2 3 6 2 1 4 1 2 2 0 6 1 a 0 6 1 k 0 s 1 r 0 2 1 1 2 1 3 1 2",
    "2 3 4 2 1 3 5 2 4 1 n 0 55 1 18 0 3 3 9 2 1 3 2 2 1 0 2s 1 2b 0 c 1 8 0 2 1 1 0 2 1 8 0 1 1",
    "2 0 1 1 o 0 1 4 5 3 1 1 2 3 2 1 2 2 1 4 1 2 1 0 1 3 1 0 1 3 1 2 3 0 9 1 a 0 1y 1 8 0 2 1 13",
    "0 3 3 4 2 2 1 2 2 4 3 1 2 3 0 1 3 r 1 1 0 a 2 14 0 6 2 1 3 1 0 4 2 8 0 1 2 8 1 1 0 6 2 2 3 3",
    "2 1a 0 d 2 1 3 2 2 9 0 d 1 21 0 7 1 a 0 2e 1 1 2 1 3 3 2 1 3 1 2 1 3 2g 1 y 0 e 1 a 0 6 1 9",
    "0 1 1 11 0 1 3 7 2 1 1 6 2 1 3 1 2 6 0 a 1 t 0 3 1 w 0 2 1 m 2 1 1 1 3 7 2 1 3 2 2 1 3 2 2",
    "21 1 7 0 1 1 2 0 1 1 12 0 6 2 3 1 1 2 1 1 2 2 1 1 7 2 1 0 1 2 8 1 a 0 6 1 6 0 1 1 2 0 1 1 w",
    "0 5 3 1 1 2 2 1 1 2 3 1 2 1 3 1 2 1 0 7 1 a 0 6 1 18 0 4 1 a 0 6u 1 j 0 2 2 2 3 2 0 7 1 2 2",
    "1 0 1 3 d 0 1 1 y 0 2 3 5 2 3 1 2 3 1 2 1 4 1 2 n 0 1 2 2d 1 1 0 f 1 1e 0 d 1 pn 0 2u 1 33 0",
    "1 1 5 0 b 1 5g 0 218 1 2r 0 d 1 ts 0 g 1 1 2 6 0 f 2 a 1 32z 0 5 1 g7 0 5a1 1 u 0 c 2 3 3 3",
    "2 a 0 1c6 1 ft 0 7 1 v 0 1 1 a 0 4 1 29 0 1 1 a 0 6 1 u 0 2 1 5 2 1 0 a 1 1c 0 7 2 f 0 a 1 a",
    "0 1 1 7 0 1 1 l 0 5 1 j 0 c0 1 1m 0 5i 1 2j 0 5 1 p 0 2 1 p 0 18 1 23 0 4 1 1 2 1 0 1j 3 7 1",
    "4 2 d 0 1s 1 4 0 1 2 b 1 2 4 5 0 9 1 5p2 0 15 1 w 0 2p 1 37 0 6pp 1 4 0 1 1 7 0 1 1 2 0 1 1",
    "83 0 f 1 1 0 t 1 3 0 2 1 1 0 e 1 4 0 8 1 b0 0 1s4 1 2z 0 5 1 d 0 3 1 9 0 7 1 a 0 2 1 1 0 2 2",
    "1 0 31c 1 71 0 3 1 c4 0 6 1 n 0 f 1 h 0 f 1 1a 2 2 1 n 2 9 1 38 0 1o 1 6u 0 a 1 13 0 2 1 1o",
    "0 2 4 3 2 3 0 6 4 8 1 8 2 2 0 7 2 u 0 4 2 1p 0 l 1 1u 0 3 2 1 0 3e 1 k 0 c 1 k 0 c 1 2f 0 9",
    "1 p 0 3r 1 2d 0 1 1 1z 0 1 1 2 0 2 1 1 0 2 1 2 0 2 1 4 0 1 1 c 0 1 1 1 0 1 1 7 0 1 1 1t 0 1",
    "1 4 0 2 1 8 0 1 1 7 0 1 1 s 0 1 1 4 0 1 1 5 0 1 1 1 0 3 1 7 0 1 1 9g 0 2 1 84 0 2 1 fm 0 1j",
    "2 4 0 1e 2 8 0 1 2 e 0 1 2 7 0 f 1 5 2 1 1 f 2 uo 1 v 0 6 1 6 0 5x 1 7 2 1 1 h 2 2 1 7 2 1 1",
    "2 2 1 1 5 2 5 1 1q 0 x 1 1 2 34 1 19 0 3 1 7 2 7 0 2 1 a 0 4 1 2 0 8w 1 u 0 1 2 h 1 18 0 4 2",
    "a 0 5 1 1 0 cw 1 s 0 4 2 a 0 5y 1 u 0 2 2 b 0 4 1 1 0 5c 1 v 0 1 1 3 0 1 2 2 0 1 2 7 0 2 2 5",
    "0 1 2 8 1 2 0 68 1 7 0 1 1 4 0 1 1 2 0 1 1 f 0 1 1 5h 0 2 1 9 0 7 2 15 1 1w 0 7 2 1 0 4 1 a",
    "0 4 1 2 0 lt 1 1w 0 24 1 1p 0 5e 1 4 0 1 1 r 0 1 1 2 0 1 1 1 0 2 1 1 0 1 1 a 0 1 1 4 0 1 1 1",
    "0 1 1 1 0 6 1 1 0 4 1 1 0 1 1 1 0 1 1 1 0 1 1 3 0 1 1 2 0 1 1 1 0 2 1 1 0 1 1 1 0 1 1 1 0 1",
    "1 1 0 1 1 1 0 1 1 2 0 1 1 1 0 2 1 4 0 1 1 7 0 1 1 4 0 1 1 4 0 1 1 1 0 1 1 a 0 1 1 h 0 5 1 3",
    "0 1 1 5 0 1 1 h 0 1g 1 2 0 7i 1 18 0 4 1 2s 0 c 1 f 0 2 1 f 0 1 1 f 0 1 1 11 0 a 1 4u 0 1k 1",
    "t 0 d 1 18 0 4 1 9 0 7 1 2 0 e 1 6 0 4a 1 rd 0 3 1 h 0 3 1 d 0 3 1 62 0 6 1 c 0 4 1 1 0 f 1",
    "c 0 4 1 1k 0 8 1 a 0 6 1 14 0 8 1 u 0 2 1 c 0 4 1 2 0 e 1 9 0 13 1 9k 0 8 1 e 0 2 1 d 0 3 1",
    "b 0 3 1 1l 0 1 1 1 0 4 1 g 0 2 1 c 0 4 1 a 0 7 1 43 0 1 1 2v 0 sl 1 wyo 0 w 1 3dq 0 2 1 4ge",
    "0 2 1 5rl 0 f 1 ha 0 1wi 1 f2 0 15u 1 3t7 0 5 1 6ju 0 f62u 1 6o 2 47bk 1"]

def category (c : Char) : Category :=
  match categoryTable.value c with
  | 1 => .unseen
  | 2 => .mark
  | 3 => .spacingMark
  | 4 => .letterMark
  | _ => .picture

/-- Whether a character combines with the one before it. -/
def isMark (c : Char) : Bool :=
  category c ∈ [.mark, .spacingMark, .letterMark]

end Gateway.Text
