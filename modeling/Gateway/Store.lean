import Gateway.SortedMap
import Gateway.Text.Utf8

/-!
A store of bytes under keys, each entry alive for a number of seconds. Time is a clock in
milliseconds that the caller passes in. An expired entry is never returned: reading it removes it,
and a sweeper removes entries that nobody reads, at every multiple of its interval. Who sleeps until
the time of a sweep wakes up before it: the sweep takes place when the clock is about to run on.
-/

namespace Gateway

structure StoreEntry where
  value : Bytes
  /-- First millisecond at which the entry is dead. -/
  expiresAt : Nat
  deriving DecidableEq, Repr, Inhabited

namespace StoreEntry

def isLive (entry : StoreEntry) (now : Nat) : Bool :=
  now < entry.expiresAt

end StoreEntry

/-- Entries by key, dead ones included until something removes them. -/
structure Store where
  entries : SortedMap StoreEntry
  deriving DecidableEq, Repr, Inhabited

namespace Store

def empty : Store := ⟨[]⟩

def size (store : Store) : Nat := store.entries.length

def live? (store : Store) (now : Nat) (key : String) : Option Bytes :=
  match store.entries.get? key with
  | some entry => if entry.isLive now then some entry.value else none
  | none => none

/-- Reads a live entry; a dead one is removed. -/
def get (store : Store) (now : Nat) (key : String) : Option Bytes × Store :=
  match store.entries.get? key with
  | some entry =>
      if entry.isLive now then (some entry.value, store)
      else (none, ⟨store.entries.erase key⟩)
  | none => (none, store)

/-- Stores a value for some seconds. Without any, nothing is stored. -/
def set (store : Store) (now : Nat) (key : String) (value : Bytes) (ttl : Int) : Store :=
  if ttl ≤ 0 then store else ⟨store.entries.insert key ⟨value, now + ttl.toNat * 1000⟩⟩

def purge (store : Store) (now : Nat) : Store :=
  ⟨store.entries.filter fun pair => pair.2.isLive now⟩

def purgeCount (store : Store) (now : Nat) : Nat :=
  store.size - (store.purge now).size

end Store

/-- A periodic purge: when it runs next and how far apart its runs are. -/
structure Sweeper where
  interval : Nat
  next : Nat
  deriving DecidableEq, Repr, Inhabited

namespace Sweeper

/-- A sweeper whose first run is one interval from now. -/
def start (now interval : Nat) : Sweeper := ⟨interval, now + interval⟩

def advance (sweeper : Sweeper) : Sweeper :=
  { sweeper with next := sweeper.next + sweeper.interval }

end Sweeper

/-- A store under a running clock with its sweepers. -/
structure SweptStore where
  now : Nat
  store : Store
  sweepers : List Sweeper
  deriving DecidableEq, Repr, Inhabited

namespace SweptStore

def empty : SweptStore := ⟨0, .empty, []⟩

/-- The earliest run that is due before a time. -/
def nextRun (state : SweptStore) (limit : Nat) : Option Nat :=
  ((state.sweepers.map Sweeper.next).filter (· < limit)).min?

/-- Runs the sweepers that are due at a time. -/
def sweepAt (state : SweptStore) (time : Nat) : SweptStore :=
  { now := time
    store := state.store.purge time
    sweepers := state.sweepers.map fun sweeper =>
      if sweeper.next ≤ time then sweeper.advance else sweeper }

/-- Lets the clock run to a time; every sweep on the way takes place at its own time. -/
def runTo : Nat → SweptStore → Nat → SweptStore
  | 0, state, target => { state with now := target }
  | fuel + 1, state, target =>
      match state.nextRun target with
      | some time => runTo fuel (state.sweepAt time) target
      | none => { state with now := target }

/-- Lets some milliseconds pass. Sweeps take place at most once in each of them. -/
def sleep (state : SweptStore) (millis : Nat) : SweptStore :=
  runTo (millis + 1) state (state.now + millis)

/-- Starts a sweeper. Without an interval it would never get away from its first run, so there is
none. -/
def startSweeper (state : SweptStore) (interval : Nat) : SweptStore :=
  if interval = 0 then state
  else { state with sweepers := state.sweepers ++ [Sweeper.start state.now interval] }

def stopSweepers (state : SweptStore) : SweptStore :=
  { state with sweepers := [] }

def set (state : SweptStore) (key : String) (value : Bytes) (ttl : Int) : SweptStore :=
  { state with store := state.store.set state.now key value ttl }

def get (state : SweptStore) (key : String) : Option Bytes × SweptStore :=
  let result := state.store.get state.now key
  (result.1, { state with store := result.2 })

def purge (state : SweptStore) : SweptStore :=
  { state with store := state.store.purge state.now }

end SweptStore

end Gateway
