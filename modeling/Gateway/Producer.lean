import Gateway.ClientRequest
import Gateway.Proxy
import Gateway.SideRequest

/-!
Producers: the units of work that are started for one client request. A producer turns its copy of
the request into at most one call and reports one ending. `Work.conclude` says when and how a piece
of work ends while the client may go away.
-/

namespace Gateway

inductive Producer where
  /-- Passes the client's request on. -/
  | proxy (name : String) (policy : Policy)
  /-- Sends a request of its own. -/
  | side (request : SideRequest)
  /-- Answers without a call to the backend. -/
  | inner (name : String) (mustBuffer : Bool) (work : Backend)

structure Work where
  /-- What went to the backend. -/
  sent : Option Request
  reaction : Reaction

namespace Work

def failed (error : GatewayError) : Work := ⟨none, Reaction.failed error⟩

/-- Whether the client goes away before the work ends. -/
def isCancelled (work : Work) (cancelAt : Option Nat) : Bool :=
  cancelAt.any (· < work.reaction.delay)

def endTime (work : Work) (cancelAt : Option Nat) : Nat :=
  match cancelAt with
  | some time => min time work.reaction.delay
  | none => work.reaction.delay

/-- How the work ends: as it would by itself, or because the client has gone. -/
def conclude (work : Work) (cancelAt : Option Nat) : Ending :=
  if work.isCancelled cancelAt then .settled (.error .clientDisconnect)
  else work.reaction.ending

end Work

namespace Producer

def name : Producer → String
  | proxy name _ => name
  | side request => request.block.name
  | inner name _ _ => name

/-- Whether the producer evaluates the body of the client's request. -/
def mustBuffer : Producer → Bool
  | proxy _ policy => policy.mustBuffer
  | side request => request.mustBuffer
  | inner _ mustBuffer _ => mustBuffer

/-- What all work is started with. -/
structure Setting where
  backend : Backend
  environment : Environment
  freshId : String

/-- Starts the work of a producer on its copy of a request: the log after the start and the work. -/
def start (setting : Setting) (producer : Producer) (state : Policy.Logged) : LogFields × Work :=
  match producer with
  | proxy _ policy =>
      match Proxy.prepare policy setting.environment setting.freshId state with
      | (prepared, some error) => (prepared.log, .failed error)
      | (prepared, none) =>
          let outbound := prepared.request
          (prepared.log, ⟨some outbound, (setting.backend outbound).mapResponse
            (Proxy.finish policy setting.environment outbound)⟩)
  | side request =>
      match request.prepare setting.environment state.request with
      | .error error => (state.log, .failed error)
      | .ok outbound => (state.log, ⟨some outbound, setting.backend outbound⟩)
  | inner _ _ work => (state.log, ⟨none, work state.request⟩)

/-- Starts producers in order, each with its copy of the request. -/
def startAll (setting : Setting) (log : LogFields) :
    List (Producer × Request) → LogFields × List Work
  | [] => (log, [])
  | (producer, request) :: rest =>
      let first := producer.start setting ⟨request, log⟩
      let others := startAll setting first.1 rest
      (others.1, first.2 :: others.2)

end Producer

end Gateway
