import Gateway.SortedMap

/-!
One lock for each token that is being looked up. The table maps a token to the generation of its
lock; a caller opens the present generation or starts a new one, waits for it in order of arrival,
and on leaving first takes the generation out of the table, if it is still there, and then hands the
lock to the next in line. Callers that came before the removal go on waiting for their generation.
-/

namespace Gateway

abbrev CallId := Nat

@[ext]
structure Lock where
  holder : Option CallId := none
  waiting : List CallId := []
  deriving DecidableEq, Repr, Inhabited

/-- The locks of one token; a generation is the place of its lock in the list. -/
structure Lane where
  /-- The generation that the table holds. -/
  current : Option Nat := none
  locks : List Lock := []
  deriving DecidableEq, Repr, Inhabited

namespace Lane

/-- The present generation, or a new one. -/
def openLock (lane : Lane) : Nat × Lane :=
  match lane.current with
  | some generation => (generation, lane)
  | none =>
      (lane.locks.length, { current := some lane.locks.length, locks := lane.locks ++ [{}] })

def lock (lane : Lane) (generation : Nat) : Lock :=
  lane.locks.getD generation {}

def setLock (lane : Lane) (generation : Nat) (lock : Lock) : Lane :=
  { lane with locks := lane.locks.set generation lock }

/-- Takes a free lock or gets in line: whether the lock was taken. -/
def acquire (lane : Lane) (generation : Nat) (call : CallId) : Bool × Lane :=
  let lock := lane.lock generation
  match lock.holder with
  | none => (true, lane.setLock generation { lock with holder := some call })
  | some _ =>
      (false, lane.setLock generation { lock with waiting := lock.waiting ++ [call] })

/-- Takes a generation out of the table if it is still there. -/
def forget (lane : Lane) (generation : Nat) : Lane :=
  if lane.current = some generation then { lane with current := none } else lane

/-- Hands the lock to the next in line, who is returned. -/
def handOver (lane : Lane) (generation : Nat) : Option CallId × Lane :=
  match (lane.lock generation).waiting with
  | [] => (none, lane.setLock generation { holder := none, waiting := [] })
  | next :: rest =>
      (some next, lane.setLock generation { holder := some next, waiting := rest })

end Lane

/-- The lanes of all tokens that were ever looked up. -/
abbrev LockTable := SortedMap Lane

namespace LockTable

def lane (table : LockTable) (token : String) : Lane :=
  (SortedMap.get? table token).getD {}

def setLane (table : LockTable) (token : String) (lane : Lane) : LockTable :=
  SortedMap.insert token lane table

def lockedTokens (table : LockTable) : Nat :=
  (table.filter fun pair => pair.2.current.isSome).length

end LockTable

end Gateway
