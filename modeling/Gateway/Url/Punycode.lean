/-!
Punycode: a label with non-ASCII characters as ASCII text. `encode?` writes the basic characters,
then for each other character in ascending order where it is inserted; `decode?` reads such a text.
-/

namespace Gateway.Url.Punycode

def digit (value : Nat) : Char :=
  if value < 26 then Char.ofNat (97 + value) else Char.ofNat (22 + value)

def digitValue? (c : Char) : Option Nat :=
  let lowered := c.toLower
  if 'a' ≤ lowered ∧ lowered ≤ 'z' then some (lowered.toNat - 97)
  else if c.isDigit then some (c.toNat - 22)
  else none

def threshold (position bias : Nat) : Nat :=
  min 26 (max 1 (position - bias))

/-- Counts how often a delta is divided until it is small. -/
def shrink : Nat → Nat → Nat → Nat × Nat
  | 0, delta, steps => (delta, steps)
  | fuel + 1, delta, steps =>
      if 455 < delta then shrink fuel (delta / 35) (steps + 36) else (delta, steps)

def adapt (delta points : Nat) (first : Bool) : Nat :=
  let scaled := if first then delta / 700 else delta / 2
  let spread := scaled + scaled / points
  let small := shrink spread spread 0
  small.2 + 36 * small.1 / (small.1 + 38)

/-- A delta as digits of varying weight. -/
def encodeDelta : Nat → Nat → Nat → Nat → List Char
  | 0, _, _, _ => []
  | fuel + 1, delta, position, bias =>
      let least := threshold position bias
      if delta < least then [digit delta]
      else
        digit (least + (delta - least) % (36 - least)) ::
          encodeDelta fuel ((delta - least) / (36 - least)) (position + 36) bias

/-- Progress of writing a label. -/
structure Writing where
  delta : Nat
  bias : Nat
  handled : Nat
  output : List Char

/-- Handles all places of one code point. -/
def writePoint (basic point : Nat) (label : List Char) (writing : Writing) : Writing :=
  label.foldl
    (fun writing c =>
      if c.toNat < point then { writing with delta := writing.delta + 1 }
      else if c.toNat = point then
        { delta := 0
          bias := adapt writing.delta (writing.handled + 1) (writing.handled = basic)
          handled := writing.handled + 1
          output := writing.output ++
            encodeDelta (writing.delta + 1) writing.delta 36 writing.bias }
      else writing)
    writing

/-- Handles code points in ascending order from `next` on. -/
def writePoints (basic : Nat) (label : List Char) : List Nat → Nat → Writing → Writing
  | [], _, writing => writing
  | point :: rest, next, writing =>
      let moved := { writing with
        delta := writing.delta + (point - next) * (writing.handled + 1) }
      let written := writePoint basic point label moved
      writePoints basic label rest (point + 1) { written with delta := written.delta + 1 }

def maxLabelLength : Nat := 1000

/-- The written form of a label without its mark, unless the label is too long. -/
def encode? (label : List Char) : Option (List Char) :=
  if maxLabelLength < label.length then none
  else
    let basic := label.filter fun c => c.toNat < 128
    let points := ((label.filter fun c => 128 ≤ c.toNat).map Char.toNat).mergeSort.eraseDups
    let start := if basic.isEmpty then [] else basic ++ ['-']
    some (writePoints basic.length label points 128 ⟨0, 72, basic.length, start⟩).output

/-- Reads one delta: the index after it and the characters behind. -/
def decodeDelta (bias : Nat) : Nat → Nat → Nat → List Char → Option (Nat × List Char)
  | _, _, _, [] => none
  | index, weight, position, c :: rest => do
      let value ← digitValue? c
      let index := index + value * weight
      if Nat.pow 2 32 ≤ index then none
      else
        let least := threshold position bias
        if value < least then some (index, rest)
        else if Nat.pow 2 32 ≤ weight * (36 - least) then none
        else decodeDelta bias index (weight * (36 - least)) (position + 36) rest

/-- Reads deltas and inserts their characters. -/
def readPoints : Nat → Nat → Nat → Nat → List Char → List Char → Option (List Char)
  | 0, _, _, _, output, _ => some output
  | _ + 1, _, _, _, output, [] => some output
  | fuel + 1, point, index, bias, output, chars => do
      let (next, rest) ← decodeDelta bias index 1 36 chars
      let size := output.length + 1
      let point := point + next / size
      if 0x10FFFF < point ∨ (0xD800 ≤ point ∧ point < 0xE000) then none
      else
        let place := next % size
        readPoints fuel point (place + 1) (adapt (next - index) size (index = 0))
          (output.take place ++ Char.ofNat point :: output.drop place) rest

def maxWrittenLength : Nat := 2000

/-- The label of a written form without its mark. Basic characters stand before the last hyphen; a
hyphen at the very start is no such mark, and as a digit it has no value. -/
def decode? (text : List Char) : Option (List Char) :=
  let reversed := text.reverse
  let basic := ((reversed.dropWhile (· ≠ '-')).drop 1).reverse
  let tail := if basic.isEmpty then text else (reversed.takeWhile (· ≠ '-')).reverse
  if text.length ≤ maxWrittenLength && basic.all fun c => c.toNat < 128 then
    readPoints (tail.length + 1) 128 0 72 basic tail
  else none

end Gateway.Url.Punycode
