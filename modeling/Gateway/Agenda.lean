/-!
Lists of things that take place at known times, kept in the order in which they take place: by time,
and in the order of their entry where the times are equal.
-/

namespace Gateway

structure Timed (Item : Type) where
  time : Nat
  item : Item
  deriving DecidableEq, Repr

namespace Timed

variable {Item : Type}

/-- Enters a thing behind all that are not later. -/
def enter (entry : Timed Item) : List (Timed Item) → List (Timed Item)
  | [] => [entry]
  | next :: rest =>
      if entry.time < next.time then entry :: next :: rest else next :: enter entry rest

/-- Things in the order in which they take place. -/
def inOrder (entries : List (Timed Item)) : List (Timed Item) :=
  entries.foldl (fun agenda entry => enter entry agenda) []

end Timed

end Gateway
