import Gateway.Agenda
import Gateway.Introspection.World

/-!
Looking tokens up, many callers at a time, one after the other where they do not have to wait. Calls
are launched in their order: one whose time has come starts at once. A call goes on until it waits
for its lock or for a reply. `step` carries out the next event of the agenda; events of one
millisecond take place in the order in which they were entered.
-/

namespace Gateway.Introspection

/-- The world of the calls with the plan of who goes on when. -/
structure State extends World where
  /-- Which calls go on at which times. -/
  agenda : List (Timed CallId) := []
  /-- How many calls came before those that are being looked up. -/
  earlier : Nat := 0
  /-- The writes to the store for those that are being looked up. -/
  writes : List Write := []
  deriving Inhabited

namespace State

def phases (state : State) : List Phase := state.standings.drop state.earlier

def setPhase (state : State) (id : CallId) (phase : Phase) : State :=
  { state with toWorld := state.toWorld.setPhase id phase }

def schedule (state : State) (time : Nat) (id : CallId) : State :=
  { state with agenda := Timed.enter ⟨time, id⟩ state.agenda }

/-- Ends a call: it leaves its lock, and the next in line goes on. -/
def finish (state : State) (id : CallId) (token : String) (generation : Option Nat)
    (result : Except GatewayError Claims) : State :=
  match generation with
  | none => state.setPhase id (.done result state.now)
  | some generation =>
      let handed := (state.toWorld.withdraw token generation).release token generation
      let left : State := { state with toWorld := handed.2.setPhase id (.done result state.now) }
      match handed.1 with
      | some next => left.schedule left.now next
      | none => left

/-- Takes the reply of a call: a good answer is stored, and the call ends. -/
def receive (setting : Setting) (state : State) (id : CallId) (call : Call)
    (generation : Option Nat) (reply : Reply) : State :=
  match setting.introspector.judge reply, generation with
  | .error error, _ => state.finish id call.token generation (.error error)
  | .ok (claims, _), none => state.finish id call.token none (.ok claims)
  | .ok (claims, bytes), some _ =>
      let write := state.toWorld.writeOf setting call claims bytes
      let kept : State := { state with
        toWorld := state.toWorld.keep write
        writes := state.writes ++ [write] }
      kept.finish id call.token generation (.ok claims)

/-- Asks the server. A reply without delay is taken at once. -/
def ask (setting : Setting) (state : State) (id : CallId) (call : Call)
    (generation : Option Nat) : State :=
  match setting.introspector.request call.context call.token with
  | .error error => state.finish id call.token generation (.error error)
  | .ok request =>
      let sent := state.toWorld.sending call.token request
      let reply := setting.server state.sent sent
      let asked : State := { state with toWorld := state.toWorld.send sent }
      let duration := setting.introspector.duration reply
      if duration = 0 then asked.receive setting id call generation reply
      else (asked.setPhase id (.calling generation reply)).schedule (asked.now + duration) id

/-- Goes on with the lock in hand: a stored answer that can be read ends the call. -/
def enter (setting : Setting) (state : State) (id : CallId) (call : Call) (generation : Nat) :
    State :=
  let found := state.toWorld.look call.token
  let read : State := { state with toWorld := found.2 }
  match found.1 with
  | some claims => read.finish id call.token (some generation) (.ok claims)
  | none => read.ask setting id call (some generation)

/-- Opens the lock of a token and takes it or gets in line: whether it was taken, and which
generation it is. -/
def lineUp (state : State) (id : CallId) (token : String) : Bool × Nat × State :=
  let opened := state.toWorld.openLock token
  let joined := opened.2.joinLine id token opened.1
  (joined.1, opened.1, { state with toWorld := joined.2.setPhase id (.waiting opened.1) })

/-- Starts a call: at once if nothing is kept, otherwise through the lock of its token. -/
def begin (setting : Setting) (state : State) (id : CallId) (call : Call) : State :=
  if setting.ttl ≤ 0 then state.ask setting id call none
  else
    let ⟨taken, generation, inLine⟩ := state.lineUp id call.token
    if taken then inLine.enter setting id call generation else inLine

def resume (setting : Setting) (state : State) (id : CallId) : State :=
  match state.calls[id]?, state.standings[id]? with
  | some call, some .starting => state.begin setting id call
  | some call, some (.waiting generation) => state.enter setting id call generation
  | some call, some (.calling generation reply) => state.receive setting id call generation reply
  | _, _ => state

/-- Takes the next event from the agenda, at its time. -/
def turnTo (state : State) (event : Timed CallId) (rest : List (Timed CallId)) : State :=
  { state with toWorld := { state.toWorld with now := event.time }, agenda := rest }

def step (setting : Setting) (state : State) : State :=
  match state.agenda with
  | [] => state
  | event :: rest => (state.turnTo event rest).resume setting event.item

def run (setting : Setting) : Nat → State → State
  | 0, state => state
  | count + 1, state => run setting count (state.step setting)

/-- The state before another round of calls. What earlier calls left in store and table stays. -/
def prepare (state : State) : State :=
  { state with agenda := [], earlier := state.calls.length, writes := [] }

def enroll (state : State) (call : Call) : State :=
  { state with toWorld := state.toWorld.arrive call }

/-- A call arrives: it starts at once if its time has come, or else it is entered into the agenda. -/
def launch (setting : Setting) (state : State) (call : Call) : State :=
  let id := state.calls.length
  if call.start ≤ state.now then (state.enroll call).begin setting id call
  else (state.enroll call).schedule call.start id

def launchAll (setting : Setting) (state : State) (calls : List Call) : State :=
  calls.foldl (launch setting) state.prepare

/-- Every call takes part in at most this many events. -/
def eventsPerCall : Nat := 3

def lookUp (setting : Setting) (state : State) (calls : List Call) : State :=
  (state.launchAll setting calls).run setting (eventsPerCall * calls.length)

def sleep (state : State) (millis : Nat) : State :=
  { state with toWorld := { state.toWorld with now := state.now + millis } }

end State

end Gateway.Introspection
