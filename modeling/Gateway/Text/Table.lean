/-!
Tables of character properties, written as words: numbers in base 36 with blanks between them. A
property is a sequence of runs, each a length and the value that the characters of the run have;
characters behind the last run have the value zero.
-/

namespace Gateway.Text

def words (lines : List String) : List String :=
  lines.flatMap fun line => line.splitOn " "

def digitValue (c : Char) : Nat :=
  if c.isDigit then c.toNat - 48 else c.toNat - 87

def number (word : List Char) : Nat :=
  word.foldl (fun value c => value * 36 + digitValue c) 0

/-- How many entries of a part of a table start at or before a place. The table is sorted. -/
def rank {Entry : Type} (start : Entry → Nat) (table : Array Entry) (place low high : Nat) : Nat :=
  if low < high then
    let middle := (low + high) / 2
    match table[middle]? with
    | some entry =>
        if start entry ≤ place then rank start table place (middle + 1) high
        else rank start table place low middle
    | none => rank start table place low middle
  else low
termination_by high - low

/-- The last entry of a sorted table that starts at or before a place. -/
def entryAt? {Entry : Type} (start : Entry → Nat) (table : Array Entry) (place : Nat) :
    Option Entry :=
  match rank start table place 0 table.size with
  | 0 => none
  | count + 1 => table[count]?

/-- A property of characters: where runs start, and the value of each run. -/
structure PropertyTable where
  runs : Array (Nat × Nat)
  deriving Inhabited

namespace PropertyTable

/-- Runs from their lengths and values. -/
def runsFrom (start : Nat) : List Nat → List (Nat × Nat)
  | length :: value :: rest => (start, value) :: runsFrom (start + length) rest
  | _ => [(start, 0)]

def ofLines (lines : List String) : PropertyTable :=
  ⟨(runsFrom 0 ((words lines).map fun word => number word.toList)).toArray⟩

def value (table : PropertyTable) (c : Char) : Nat :=
  match entryAt? Prod.fst table.runs c.toNat with
  | some run => run.2
  | none => 0

end PropertyTable

end Gateway.Text
