import Gateway.Introspection.World

/-!
Look-ups side by side, with no order imposed on their moves: at any time a call may arrive, the
clock may run on, or any call may make its next move. Where `play` ends after a list of such turns is
what the look-ups can come to under some order; the events on the way are recorded.
-/

namespace Gateway.Introspection

namespace World

/-- A call reads the store, holding its lock. -/
def consult (world : World) (id : CallId) (token : String) (generation : Nat) :
    World × List Event :=
  let found := world.look token
  match found.1 with
  | some claims =>
      (found.2.conclude id (some generation) (.ok claims), [.returned id (.ok claims) world.now])
  | none => (found.2.setPhase id (.missed (some generation)), [])

/-- A call asks the server. -/
def ask (setting : Setting) (world : World) (id : CallId) (call : Call)
    (generation : Option Nat) : World × List Event :=
  match setting.introspector.request call.context call.token with
  | .error error =>
      (world.conclude id generation (.error error), [.returned id (.error error) world.now])
  | .ok request =>
      let sent := world.sending call.token request
      let reply := setting.server world.sent sent
      ((world.send sent).setPhase id (.calling generation reply), [.asked id sent reply])

/-- A call takes its reply: a good answer is stored. -/
def receive (setting : Setting) (world : World) (id : CallId) (call : Call)
    (generation : Option Nat) (reply : Reply) : World × List Event :=
  match setting.introspector.judge reply, generation with
  | .error error, _ =>
      (world.conclude id generation (.error error), [.returned id (.error error) world.now])
  | .ok (claims, _), none =>
      (world.conclude id none (.ok claims), [.returned id (.ok claims) world.now])
  | .ok (claims, bytes), some _ =>
      let write := world.writeOf setting call claims bytes
      ((world.keep write).conclude id generation (.ok claims),
        [.stored id write, .returned id (.ok claims) world.now])

/-- The next move of a call; one that is in line and does not hold its lock stays where it is. -/
def advance (setting : Setting) (world : World) (id : CallId) : World × List Event :=
  match world.calls[id]?, world.standings[id]? with
  | some call, some .starting =>
      if setting.ttl ≤ 0 then (world.setPhase id (.missed none), [])
      else
        let opened := world.openLock call.token
        (opened.2.setPhase id (.opened opened.1), [])
  | some call, some (.opened generation) =>
      ((world.joinLine id call.token generation).2.setPhase id (.waiting generation), [])
  | some call, some (.waiting generation) =>
      if ((world.table.lane call.token).lock generation).holder = some id then
        world.consult id call.token generation
      else (world, [])
  | some call, some (.missed generation) => world.ask setting id call generation
  | some call, some (.calling generation reply) => world.receive setting id call generation reply
  | some call, some (.leaving generation result finish) =>
      ((world.withdraw call.token generation).setPhase id (.releasing generation result finish), [])
  | some call, some (.releasing generation result finish) =>
      ((world.release call.token generation).2.setPhase id (.done result finish),
        [.released id call.token generation])
  | _, _ => (world, [])

end World

inductive Turn where
  | arrive (call : Call)
  | wait (millis : Nat)
  | go (id : CallId)
  deriving DecidableEq, Repr

/-- A world with the events that led to it. -/
structure Chronicle where
  world : World
  events : List Event := []

namespace Chronicle

/-- A world that no call has come to, with any store. -/
def fresh (store : Store) : Chronicle := { world := { store } }

def step (setting : Setting) (chronicle : Chronicle) : Turn → Chronicle
  | .arrive call => { chronicle with world := chronicle.world.arrive call }
  | .wait millis =>
      { chronicle with world := { chronicle.world with now := chronicle.world.now + millis } }
  | .go id =>
      let moved := chronicle.world.advance setting id
      ⟨moved.1, chronicle.events ++ moved.2⟩

def play (setting : Setting) (chronicle : Chronicle) (turns : List Turn) : Chronicle :=
  turns.foldl (step setting) chronicle

end Chronicle

end Gateway.Introspection
