import Gateway.Proxy

/-!
Tunnels: once a backend has taken up another protocol, the bytes that the client and the backend
send are passed on to each other. The end of one direction is passed on in that direction only. The
tunnel ends, and both connections are closed, when both directions have ended, when bytes cannot be
delivered, or when its time is up.
-/

namespace Gateway.Tunnel

inductive End where
  | client
  | backend
  deriving DecidableEq, Repr

def End.other : End → End
  | client => backend
  | backend => client

inductive Connection where
  | present
  | absent
  /-- The connection cannot be handed over. -/
  | broken
  deriving DecidableEq, Repr, Inhabited

structure Peer where
  /-- Bytes that arrived and were not looked at. -/
  received : Bytes := []
  /-- The end of the stream has arrived. -/
  closed : Bool := false
  /-- The peer sends no more. -/
  finished : Bool := false
  /-- The peer has gone away. -/
  gone : Bool := false
  deriving DecidableEq, Repr, Inhabited

namespace Peer

/-- The stream to a peer ends; one that has gone does not see it. -/
def close (peer : Peer) : Peer :=
  if peer.gone then peer else { peer with closed := true }

def deliver (peer : Peer) (bytes : Bytes) : Peer :=
  { peer with received := peer.received ++ bytes }

end Peer

/-- Both peers and what is between them. -/
structure State where
  client : Option Peer
  backend : Option Peer
  relaying : Bool
  now : Nat := 0
  /-- When a relaying tunnel ends at the latest. -/
  deadline : Option Nat := none
  deriving DecidableEq, Repr, Inhabited

namespace State

def peer (state : State) : End → Option Peer
  | .client => state.client
  | .backend => state.backend

def setPeer (state : State) (side : End) (peer : Option Peer) : State :=
  match side with
  | .client => { state with client := peer }
  | .backend => { state with backend := peer }

def mapPeer (state : State) (side : End) (change : Peer → Peer) : State :=
  state.setPeer side ((state.peer side).map change)

def stop (state : State) : State :=
  { ((state.mapPeer .client Peer.close).mapPeer .backend Peer.close) with relaying := false }

def hasFinished (state : State) (side : End) : Bool :=
  (state.peer side).all Peer.finished

def hasGone (state : State) (side : End) : Bool :=
  (state.peer side).any Peer.gone

def send (state : State) (side : End) (bytes : Bytes) : State :=
  if !state.relaying || state.hasFinished side || bytes.isEmpty then state
  else if state.hasGone side.other then state.stop
  else state.mapPeer side.other fun peer => peer.deliver bytes

/-- Passes the end of a direction on, which may be the end of the tunnel. -/
def passEnd (state : State) (side : End) : State :=
  if state.relaying then
    let passed := state.mapPeer side.other Peer.close
    if passed.hasFinished side.other then passed.stop else passed
  else state

def finish (state : State) (side : End) : State :=
  if state.hasFinished side then state
  else (state.mapPeer side fun peer => { peer with finished := true }).passEnd side

/-- A peer goes away, and so sends no more. -/
def leave (state : State) (side : End) : State :=
  (state.mapPeer side fun peer => { peer with gone := true }).finish side

/-- Lets time pass; a tunnel whose time is up ends. -/
def wait (state : State) (millis : Nat) : State :=
  let later : State := { state with now := state.now + millis }
  if later.relaying && later.deadline.any (· ≤ later.now) then later.stop else later

/-- Forgets the bytes that have been looked at. -/
def lookedAt (state : State) : State :=
  let forget (peer : Peer) : Peer := { peer with received := [] }
  (state.mapPeer .client forget).mapPeer .backend forget

end State

def peerOf : Connection → Option Peer
  | .present => some {}
  | .absent | .broken => none

/-- Both connections after a call that did not reach the backend: nobody uses that to the
backend. -/
def afterFailure (client backend : Connection) : State :=
  { client := (peerOf client).map Peer.close, backend := peerOf backend, relaying := false }

/-- Both connections after an answer. They are relayed if the answer takes up the protocol that the
proxy permitted and both can be handed over, and closed otherwise. -/
def afterAnswer (client backend : Connection) (outbound : Request) (response : Response) : State :=
  let joined : State := { client := peerOf client, backend := peerOf backend, relaying := true }
  if (Proxy.upgradeProtocol outbound).isSome && response.isUpgrade && client = .present &&
      backend = .present then
    { joined with
      deadline := (outbound.context.bind Context.websocketsTimeout).map Duration.millisUp }
  else joined.stop

/-- Something that a peer does, or a pause. -/
inductive Step where
  | send (side : End) (bytes : Bytes)
  | finish (side : End)
  | leave (side : End)
  | pause (millis : Nat)
  deriving DecidableEq, Repr

/-- How long it takes until what is on its way has arrived, in milliseconds. -/
def transit : Nat := 1

def State.step (state : State) (step : Step) : State :=
  (match step with
    | .send side bytes => state.send side bytes
    | .finish side => state.finish side
    | .leave side => state.leave side
    | .pause millis => state.wait millis).wait transit

/-- The states after each step, every one looked at before the next step. -/
def State.observe (state : State) : List Step → List State
  | [] => []
  | step :: rest =>
      let next := state.lookedAt.step step
      next :: observe next rest

end Gateway.Tunnel
