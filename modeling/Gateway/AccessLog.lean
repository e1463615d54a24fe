import Gateway.Redacted
import Gateway.Service

/-!
The access log: records about every request that comes in and every response that goes out. All of
them carry what is known of the request at that moment; the id is known from the start if the client
sent one, and otherwise from the response.
-/

namespace Gateway.AccessLog

inductive Level where
  | debug
  | info
  | warn
  deriving DecidableEq, Repr

def Level.name : Level → String
  | debug => "DEBUG"
  | info => "INFO"
  | warn => "WARN"

/-- What is known of a request. -/
structure Span where
  method : String
  path : String
  requestId : Option String
  deriving DecidableEq, Repr

structure Record where
  level : Level
  message : String
  fields : List (String × String)
  span : Span
  deriving DecidableEq, Repr

def protocolVersion : String := "HTTP/1.1"

def Span.of (request : Request) : Span :=
  ⟨request.method.text, request.uri.path, request.suppliedId⟩

/-- What is known of a request after its response. -/
def Span.update (span : Span) (response : Response) : Span :=
  { span with requestId := (response.headers.text? HeaderName.requestId).or span.requestId }

def onRequest (span : Span) (request : Request) : List Record :=
  [⟨.info, "Client request", [("uri", request.uri.text), ("version", protocolVersion)], span⟩,
    ⟨.debug, "Client request headers", [("headers", Redacted.text request.headers)], span⟩]

def isServerError (status : Status) : Bool := 500 ≤ status.code && status.code < 600

def onResponse (span : Span) (response : Response) : List Record :=
  let status := [("status", toString response.status.code)]
  let answered : List Record :=
    [⟨.info, "Client response", status, span⟩,
      ⟨.debug, "Client response headers", [("headers", Redacted.text response.headers)], span⟩]
  if isServerError response.status then
    answered ++ [⟨.warn, "Request answered with server error", status, span⟩]
  else answered

def onAbort (span : Span) (error : GatewayError) : List Record :=
  [⟨.warn, "Request aborted without response", [("reason", error.message)], span⟩]

/-- The records on a request and what became of it. -/
def records (request : Request) (outcome : Except GatewayError Response) : List Record :=
  let span := Span.of request
  onRequest span request ++
    match outcome with
    | .ok response => onResponse (span.update response) response
    | .error error => onAbort span error

end Gateway.AccessLog
