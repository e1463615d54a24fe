import Gateway.Context
import Gateway.Http.HeaderMap
import Gateway.Http.Uri
import Gateway.Text.Search

/-!
Requests and responses with their bodies. A body is a stream of chunks that may fail after the last
of them. `Body.collect` reads it to the end; `Body.collectWithin` stops with an error as soon as a
limit is passed.
-/

namespace Gateway

/-- A stream of chunks, which may end with a failure. -/
structure Body where
  chunks : List Bytes
  failure : Option GatewayError
  deriving DecidableEq, Repr, Inhabited

namespace Body

def empty : Body := ⟨[], none⟩

def ofBytes (bytes : Bytes) : Body := ⟨[bytes], none⟩

def ofText (text : String) : Body := ofBytes (Utf8.encode text)

def collect (body : Body) : Except GatewayError Bytes :=
  match body.failure with
  | some error => .error error
  | none => .ok body.chunks.flatten

/-- Reads chunks while they fit into what is left of a limit. -/
def readWithin (limit : Nat) (failure : Option GatewayError) (remaining : Nat) :
    List Bytes → Except GatewayError Bytes
  | [] =>
      match failure with
      | some error => .error error
      | none => .ok []
  | chunk :: rest =>
      if remaining < chunk.length then .error (.bodySizeExceeded limit)
      else (readWithin limit failure (remaining - chunk.length) rest).map (chunk ++ ·)

/-- All bytes of a stream that is not longer than a limit. -/
def collectWithin (body : Body) (limit : Nat) : Except GatewayError Bytes :=
  readWithin limit body.failure limit body.chunks

end Body

/-- A request with the context it is served in, if one is attached. -/
structure Request where
  method : Method
  uri : Uri
  headers : HeaderMap
  body : Body
  context : Option Context
  deriving DecidableEq, Repr, Inhabited

namespace Request

/-- The id that a client sent along. -/
def suppliedId (request : Request) : Option String :=
  request.headers.text? HeaderName.requestId

/-- The attached context, or a new one under the id the client sent or else a fresh one. -/
def contextOr (request : Request) (freshId : String) : Context :=
  request.context.getD (Context.new (request.suppliedId.getD freshId))

def withContext (request : Request) (freshId : String) : Request :=
  { request with context := some (request.contextOr freshId) }

def mapContext (request : Request) (change : Context → Context) : Request :=
  { request with context := request.context.map change }

/-- Whether the request asks for another protocol on its connection. -/
def isUpgrade (request : Request) : Bool :=
  (match request.headers.text? HeaderName.connection with
    | some text => Text.contains (Text.lower text) "upgrade"
    | none => false) &&
  request.headers.contains HeaderName.upgrade

def upgradeProtocol (request : Request) : Option String :=
  (request.headers.text? HeaderName.upgrade).map Text.lower

end Request

structure Response where
  status : Status
  headers : HeaderMap
  body : Body
  deriving DecidableEq, Repr, Inhabited

namespace Response

def ofBody (status : Status) (body : Body) : Response := ⟨status, .empty, body⟩

/-- The response if its body can be read to the end, else what the body failed with. -/
def delivered (response : Response) : Except GatewayError Response :=
  response.body.collect.map fun _ => response

def isUpgrade (response : Response) : Bool :=
  response.status.code = 101

end Response

end Gateway
