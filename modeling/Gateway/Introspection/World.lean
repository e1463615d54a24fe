import Gateway.Introspection.Exchange
import Gateway.LockTable
import Gateway.Store

/-!
What look-ups act on, and the moves of a single one. A call opens the lock of its token, gets in
line for it, reads the store once it holds the lock, asks the server if nothing usable is stored,
stores the answer, takes its lock out of the table and hands it on. `advance` is one move of one
call; between two moves of a call any other call may move.
-/

namespace Gateway.Introspection

structure Call where
  token : String
  /-- The context that the caller is in. -/
  context : Context
  start : Nat
  /-- Expiry that the caller knows, zero if it knows none. -/
  expiry : Int := 0
  /-- First validity that the caller knows, zero if it knows none. -/
  notBefore : Int := 0
  deriving DecidableEq, Repr, Inhabited

/-- A request as the server sees it. -/
structure Sent where
  token : String
  request : Request
  time : Nat
  deriving DecidableEq, Repr, Inhabited

/-- A server answers a request knowing what it received before. -/
abbrev Server := List Sent → Sent → Reply

inductive Phase where
  | starting
  /-- Knows its generation of the token's lock and is not in line yet. -/
  | opened (generation : Nat)
  /-- In line for a generation, or its holder once the lock was handed to it. -/
  | waiting (generation : Nat)
  /-- Found nothing usable; holds a generation unless nothing is kept. -/
  | missed (generation : Option Nat)
  /-- Waiting for a reply, holding a generation unless nothing is kept. -/
  | calling (generation : Option Nat) (reply : Reply)
  /-- Has its result; its generation is to be taken out of the table. -/
  | leaving (generation : Nat) (result : Except GatewayError Claims) (finish : Nat)
  /-- Its generation is out of the table and still to be handed on. -/
  | releasing (generation : Nat) (result : Except GatewayError Claims) (finish : Nat)
  | done (result : Except GatewayError Claims) (finish : Nat)
  deriving Inhabited

structure Write where
  key : String
  value : Bytes
  ttl : Int
  time : Nat
  deriving DecidableEq, Repr

/-- What is fixed during a run. -/
structure Setting where
  introspector : Introspector
  server : Server
  /-- The wall clock in seconds at a time of the running clock. -/
  wall : Nat → Int

/-- For how many seconds answers are kept, as configured. -/
def Setting.ttl (setting : Setting) : Int := setting.introspector.config.ttlSeconds

/-- Everything that calls read or change. -/
structure World where
  now : Nat := 0
  store : Store := .empty
  table : LockTable := []
  /-- All calls; the place of a call is its number. -/
  calls : List Call := []
  /-- Where each of them stands. -/
  standings : List Phase := []
  sent : List Sent := []
  deriving Inhabited

def storeKey (token : String) : String := "ir:" ++ token

/-- What a move shows to the outside. -/
inductive Event where
  | asked (id : CallId) (sent : Sent) (reply : Reply)
  | stored (id : CallId) (write : Write)
  | returned (id : CallId) (result : Except GatewayError Claims) (time : Nat)
  | released (id : CallId) (token : String) (generation : Nat)

namespace World

def setPhase (world : World) (id : CallId) (phase : Phase) : World :=
  { world with standings := world.standings.set id phase }

def setLane (world : World) (token : String) (lane : Lane) : World :=
  { world with table := world.table.setLane token lane }

def arrive (world : World) (call : Call) : World :=
  { world with
    calls := world.calls ++ [call]
    standings := world.standings ++ [.starting] }

/-- The generation in the table, created if there is none. -/
def openLock (world : World) (token : String) : Nat × World :=
  let opened := (world.table.lane token).openLock
  (opened.1, world.setLane token opened.2)

/-- Takes a free generation or gets in line for it: whether it was taken. -/
def joinLine (world : World) (id : CallId) (token : String) (generation : Nat) : Bool × World :=
  let joined := (world.table.lane token).acquire generation id
  (joined.1, world.setLane token joined.2)

/-- A stored answer that can be read. -/
def look (world : World) (token : String) : Option Claims × World :=
  let found := world.store.get world.now (storeKey token)
  (found.1.bind Claims.ofBytes?, { world with store := found.2 })

def sending (world : World) (token : String) (request : Request) : Sent :=
  ⟨token, request, world.now⟩

def send (world : World) (sent : Sent) : World :=
  { world with sent := world.sent ++ [sent] }

/-- How an answer is stored for a call. -/
def writeOf (world : World) (setting : Setting) (call : Call) (claims : Claims) (bytes : Bytes) :
    Write where
  key := storeKey call.token
  value := bytes
  ttl := cacheTtl setting.ttl claims call.expiry call.notBefore (setting.wall world.now)
  time := world.now

def keep (world : World) (write : Write) : World :=
  { world with store := world.store.set world.now write.key write.value write.ttl }

/-- The call has its result: without a lock it is done. -/
def conclude (world : World) (id : CallId) (generation : Option Nat)
    (result : Except GatewayError Claims) : World :=
  match generation with
  | none => world.setPhase id (.done result world.now)
  | some generation => world.setPhase id (.leaving generation result world.now)

/-- Takes a generation out of the table, if it is still there. -/
def withdraw (world : World) (token : String) (generation : Nat) : World :=
  world.setLane token ((world.table.lane token).forget generation)

/-- Hands a generation to the next in line, who is returned. -/
def release (world : World) (token : String) (generation : Nat) : Option CallId × World :=
  let handed := (world.table.lane token).handOver generation
  (handed.1, world.setLane token handed.2)

end World

end Gateway.Introspection
