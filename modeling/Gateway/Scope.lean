import Gateway.Form
import Gateway.Http.Message
import Gateway.Json.Parser
import Gateway.Json.Printer
import Gateway.Template

/-!
What the expressions of a template can name: properties of the client request, properties of the
backend's response where there is one, and variables of the environment. `Scope.value` gives the
text of an expression; a known variable without a value is the empty text, an unknown one an error.
-/

namespace Gateway

abbrev Environment := SortedMap String

/-- What expressions see of a request. -/
structure RequestView where
  method : String
  url : String
  path : String
  query : List (String × String)
  headers : HeaderMap
  requestId : String
  body : Option Bytes
  deriving DecidableEq, Repr, Inhabited

/-- What expressions see of a response. -/
structure ResponseView where
  status : Nat
  headers : HeaderMap
  deriving DecidableEq, Repr, Inhabited

/-- Everything that an expression can name. -/
structure Scope where
  environment : Environment
  request : RequestView
  response : Option ResponseView

/-- The text before the first dot and the text behind it, which is empty without a dot. -/
def splitDot (path : String) : String × String :=
  (String.ofList (path.toList.takeWhile (· ≠ '.')),
    String.ofList ((path.toList.dropWhile (· ≠ '.')).drop 1))

/-- The first value of a header as text; empty if it is absent or not visible. -/
def headerText (headers : HeaderMap) (name : String) : String :=
  ((HeaderName.parse? name).bind headers.text?).getD ""

def unknownVariable (name : String) : GatewayError :=
  .evaluation ("unknown variable '" ++ name ++ "'")

namespace RequestView

/-- The view of a request as it is now. -/
def of (request : Request) : RequestView :=
  { method := request.method.text
    url := request.uri.text
    path := request.uri.path
    query := match request.uri.query with
      | some query => Form.parse (Utf8.encode query)
      | none => []
    headers := request.headers
    requestId := match request.context with
      | some context => context.requestId
      | none => ""
    body := request.context.bind Context.bufferedBody }

/-- A member of the body, if the body is a JSON object. Strings stand for themselves, null and
absent members are empty, other values are written as JSON. -/
def jsonMember (view : RequestView) (key : String) : String :=
  match view.body.bind Json.ofBytes? with
  | some (.obj members) =>
      match Json.lookup members key with
      | some (.str text) => text
      | some .null => ""
      | some value => value.compact
      | none => ""
  | _ => ""

/-- The value of an expression behind `request.`. -/
def value (view : RequestView) (path : String) : Except GatewayError String :=
  let (head, rest) := splitDot path
  if head = "method" then .ok view.method
  else if head = "url" then .ok view.url
  else if head = "path" then .ok view.path
  else if head = "id" then .ok view.requestId
  else if head = "query" then
    .ok (((view.query.find? fun pair => pair.1 = rest).map Prod.snd).getD "")
  else if head = "headers" then .ok (headerText view.headers rest)
  else if head = "body" then .ok ((view.body.map Utf8.decodeLossy).getD "")
  else if head = "json_body" then .ok (view.jsonMember rest)
  else .error (unknownVariable ("request." ++ path))

end RequestView

namespace ResponseView

def of (response : Response) : ResponseView :=
  ⟨response.status.code, response.headers⟩

/-- The value of an expression behind `backend_response.`. -/
def value (view : ResponseView) (path : String) : Except GatewayError String :=
  let (head, rest) := splitDot path
  if head = "status" then .ok (toString view.status)
  else if head = "headers" then .ok (headerText view.headers rest)
  else .error (unknownVariable ("backend_response." ++ path))

end ResponseView

namespace Scope

def ofRequest (environment : Environment) (request : RequestView) : Scope :=
  ⟨environment, request, none⟩

def value (scope : Scope) (name : String) : Except GatewayError String :=
  let (root, path) := splitDot name
  if root = "request" then scope.request.value path
  else if root = "backend_response" then
    match scope.response with
    | some response => response.value path
    | none => .error (.evaluation ("'" ++ name ++ "' is not available in request scope"))
  else if root = "env" then .ok ((scope.environment.get? path).getD "")
  else .error (unknownVariable name)

def render (scope : Scope) (template : String) : Except GatewayError String :=
  Template.render scope.value (.evaluation ("unterminated expression in '" ++ template ++ "'"))
    template

end Scope

end Gateway
