/-!
Maps from texts to values, kept in the order of their keys. `get?` is the view; `insert` replaces
the value of a present key.
-/

namespace Gateway

/-- Pairs in ascending order of their keys. -/
abbrev SortedMap (Value : Type) := List (String × Value)

namespace SortedMap

variable {Value : Type}

def empty : SortedMap Value := []

def insert (key : String) (value : Value) : SortedMap Value → SortedMap Value
  | [] => [(key, value)]
  | (present, old) :: rest =>
      if key < present then (key, value) :: (present, old) :: rest
      else if key = present then (key, value) :: rest
      else (present, old) :: insert key value rest

def get? (map : SortedMap Value) (key : String) : Option Value :=
  (map.find? fun pair => pair.1 = key).map Prod.snd

def erase (map : SortedMap Value) (key : String) : SortedMap Value :=
  map.filter fun pair => pair.1 ≠ key

/-- Inserts pairs in order, so that the last value of a key stays. -/
def ofList (pairs : List (String × Value)) : SortedMap Value :=
  pairs.foldl (fun map pair => insert pair.1 pair.2 map) empty

theorem get?_insert (map : SortedMap Value) (key other : String) (value : Value) :
    get? (insert key value map) other = if key = other then some value else get? map other := by
  induction map with
  | nil => by_cases same : key = other <;> simp [insert, get?, same]
  | cons pair rest induction =>
      obtain ⟨present, old⟩ := pair
      unfold insert
      split
      · by_cases same : key = other <;> simp [get?, same]
      · split
        · rename_i equal
          subst equal
          by_cases same : key = other <;> simp [get?, same]
        · rename_i different
          simp only [get?, List.find?_cons] at induction ⊢
          by_cases hit : present = other
          · subst hit
            simp [different]
          · simpa [hit] using induction

end SortedMap

end Gateway
