/-!
What can go wrong while a request is served and while a configuration is read. Every error of a
request has a status for the client, a type name for logs, a list of kinds from specific to general
for choosing an error handler, and a message that is safe to show.
-/

namespace Gateway

inductive GatewayError where
  | configuration (message : String)
  | evaluation (message : String)
  | invalidUri (message : String)
  | backendConnection (message : String)
  | backendRefused (message : String)
  | backendTimeout (message : String)
  | clientDisconnect
  | introspectionTransport (message : String)
  | introspectionStatus (status : Nat)
  | introspectionRead (message : String)
  | introspectionDecode (message : String)
  | bodySizeExceeded (limit : Nat)
  | bodyRead (message : String)
  | methodNotAllowed (method : String)
  | internal (message : String)
  deriving DecidableEq, Repr, Inhabited

namespace GatewayError

def message : GatewayError → String
  | configuration message => "configuration error: " ++ message
  | evaluation message => "evaluation error: " ++ message
  | invalidUri message => "invalid URI: " ++ message
  | backendConnection message => "backend connection error: " ++ message
  | backendRefused message => "backend refused connection: " ++ message
  | backendTimeout message => "backend timeout: " ++ message
  | clientDisconnect => "client disconnected"
  | introspectionTransport message => "introspection response: " ++ message
  | introspectionStatus status => "introspection response status code " ++ toString status
  | introspectionRead message => "introspection response cannot be read: " ++ message
  | introspectionDecode message => "introspection response is not JSON: " ++ message
  | bodySizeExceeded limit =>
      "request body size exceeded: limit is " ++ toString limit ++ " bytes"
  | bodyRead message => "request body cannot be read: " ++ message
  | methodNotAllowed method => "method " ++ method ++ " not allowed"
  | internal message => "internal error: " ++ message

/-- The status that the client is answered with. -/
def status : GatewayError → Nat
  | configuration _ | evaluation _ | internal _ => 500
  | clientDisconnect | bodyRead _ => 400
  | invalidUri _ | backendConnection _ | backendRefused _ | introspectionTransport _
  | introspectionStatus _ | introspectionRead _ | introspectionDecode _ => 502
  | backendTimeout _ => 504
  | bodySizeExceeded _ => 413
  | methodNotAllowed _ => 405

def typeName : GatewayError → String
  | configuration _ => "configuration"
  | evaluation _ => "evaluation"
  | invalidUri _ => "invalid_uri"
  | backendConnection _ => "backend_connection"
  | backendRefused _ => "backend_refused"
  | backendTimeout _ => "backend_timeout"
  | clientDisconnect => "client_disconnect"
  | introspectionTransport _ => "introspection_transport"
  | introspectionStatus _ => "introspection_status"
  | introspectionRead _ => "introspection_read"
  | introspectionDecode _ => "introspection_decode"
  | bodySizeExceeded _ => "request_body_size_exceeded"
  | bodyRead _ => "request_body_read"
  | methodNotAllowed _ => "method_not_allowed"
  | internal _ => "internal"

/-- The groups of errors that a type belongs to, from specific to general. -/
def groups : GatewayError → List String
  | invalidUri _ | backendConnection _ | backendRefused _ | backendTimeout _ => ["backend"]
  | introspectionTransport _ | introspectionStatus _ | introspectionRead _
  | introspectionDecode _ => ["introspection", "access_control"]
  | bodySizeExceeded _ | bodyRead _ | clientDisconnect => ["request"]
  | methodNotAllowed _ | configuration _ | evaluation _ => ["endpoint"]
  | internal _ => []

/-- Kinds in the order in which error handlers are looked up. -/
def kinds (error : GatewayError) : List String :=
  error.typeName :: error.groups

def clientMessage (error : GatewayError) : String :=
  if error.status = 502 then "backend error"
  else if error.status = 504 then "backend timeout"
  else if error.status = 413 then "request body too large"
  else if error.status = 405 then "method not allowed"
  else if error.status = 400 then "bad request"
  else "internal server error"

end GatewayError

/-- The kind that every error matches after its own kinds. -/
def wildcardKind : String := "*"

inductive ConfigError where
  | invalidUrl (url message : String)
  | invalidSize (value message : String)
  | invalidValue (field message : String)
  | parse
  | unreadable
  | emptyFile
  deriving DecidableEq, Repr, Inhabited

def ConfigError.message : ConfigError → String
  | .invalidUrl url message => "invalid URL '" ++ url ++ "': " ++ message
  | .invalidSize value message => "invalid size '" ++ value ++ "': " ++ message
  | .invalidValue field message => "invalid value for '" ++ field ++ "': " ++ message
  | .parse => "YAML parse error"
  | .unreadable => "I/O error reading configuration file"
  | .emptyFile => "configuration file is empty"

end Gateway
