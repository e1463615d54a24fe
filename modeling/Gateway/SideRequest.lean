import Gateway.Answer
import Gateway.Backend

/-!
Side requests: a new request that is built from templates instead of passing the client's on. The
outbound request has the configured parts and nothing else of the client's request but its context.
-/

namespace Gateway

structure RequestBlock where
  name : String := "default"
  /-- Template of the target. -/
  url : String
  method : String := "GET"
  headers : SortedMap String := []
  /-- Template of the body. -/
  body : Option String := none
  deriving DecidableEq, Repr, Inhabited

/-- A side request with a method that can be sent. -/
structure SideRequest where
  block : RequestBlock
  method : Method
  deriving DecidableEq, Repr, Inhabited

namespace SideRequest

/-- Checks the method, which is written in capitals. -/
def create (block : RequestBlock) : Except GatewayError SideRequest :=
  match Method.parse? (Text.upper block.method) with
  | some method => .ok ⟨block, method⟩
  | none =>
      .error (.configuration
        ("request '" ++ block.name ++ "': invalid method '" ++ block.method ++ "': " ++
          Method.fault))

/-- Whether a template reads the body of the client's request. -/
def mustBuffer (side : SideRequest) : Bool :=
  referencesBody side.block.url || (side.block.headers.map Prod.snd).any referencesBody ||
    side.block.body.any referencesBody

def target (name text : String) : Except GatewayError Uri :=
  match Uri.parse text with
  | .ok uri => .ok uri
  | .error fault => .error (.invalidUri ("request '" ++ name ++ "': " ++ fault.message))

def renderBody (scope : Scope) : Option String → Except GatewayError Body
  | some template => (scope.render template).map Body.ofText
  | none => .ok .empty

/-- The outbound request: target, body and headers are rendered in this order. -/
def prepare (side : SideRequest) (environment : Environment) (request : Request) :
    Except GatewayError Request := do
  let scope := Scope.ofRequest environment (RequestView.of request)
  let url ← scope.render side.block.url
  let uri ← target side.block.name url
  let body ← renderBody scope side.block.body
  let headers ← renderHeaders scope .empty side.block.headers
  .ok { method := side.method, uri, headers, body, context := request.context }

end SideRequest

end Gateway
