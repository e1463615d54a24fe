import Gateway.Route

/-!
The service at the edge of the gateway: it classifies failures of the client's body, attaches a
context to every request and answers with the id of the request unless the answer carries one.
-/

namespace Gateway.Service

/-- The body of a message that arrives: its stream may break off with a reason. -/
def incomingBody (chunks : List Bytes) (broken : Option String) : Body :=
  ⟨chunks, broken.map .bodyRead⟩

/-- Puts a request id into headers that have none, if it can stand in a header. -/
def addRequestId (id : String) (headers : HeaderMap) : HeaderMap :=
  match HeaderValue.parse? id with
  | some value =>
      if headers.contains HeaderName.requestId then headers
      else headers.insert HeaderName.requestId value
  | none => headers

def serve (route : Route) (setting : Producer.Setting) (state : Policy.Logged) :
    Except GatewayError Response × Trace :=
  let context := state.request.contextOr setting.freshId
  let result := route.serve setting { state with request.context := some context }
  (result.1.map fun response =>
      { response with headers := addRequestId context.requestId response.headers },
    result.2)

end Gateway.Service

namespace Gateway

/-- A body on its way over a connection. -/
structure Arrival where
  /-- The announced length; without it the body comes in pieces, and an empty one ends it. -/
  announced : Option Nat
  chunks : List Bytes
  /-- Whether the end was marked behind the pieces. -/
  ended : Bool
  deriving DecidableEq, Repr

namespace Arrival

/-- Whether the connection closed before the end of the body. -/
def isCutShort (arrival : Arrival) : Bool :=
  match arrival.announced with
  | some length => arrival.chunks.flatten.length < length
  | none => !arrival.ended && !arrival.chunks.contains []

def content (arrival : Arrival) : Bytes :=
  match arrival.announced with
  | some length => arrival.chunks.flatten.take length
  | none => (arrival.chunks.takeWhile (· ≠ [])).flatten

def body (arrival : Arrival) : Body :=
  Service.incomingBody [arrival.content]
    (if arrival.isCutShort then some "connection closed before the end" else none)

end Arrival

end Gateway
