import Gateway.AllowedMethods
import Gateway.Endpoint

/-!
Routes: the configuration of one endpoint, the checks that go beyond its form, and the handler that
it is built into. Methods that are not on the list of the route are refused before the endpoint sees
the request.
-/

namespace Gateway

structure ProxyBlock where
  name : String := "default"
  policy : Policy := {}
  deriving DecidableEq, Repr, Inhabited

/-- An error handler of a route with the kinds of errors that it serves. -/
structure ErrorBlock where
  kinds : List String
  handler : ErrorHandler := {}
  deriving DecidableEq, Repr, Inhabited

structure RouteConfig where
  bodyLimit : Option String := none
  policy : Policy := {}
  redirect : Option Redirect := none
  response : Option StaticResponse := none
  errorPage : Option ErrorPage := none
  allowedMethods : Option (List String) := none
  proxies : List ProxyBlock := []
  requests : List RequestBlock := []
  errorBlocks : List ErrorBlock := []
  deriving DecidableEq, Repr, Inhabited

/-- The first text of a list that stands there before. -/
def firstRepeated (seen : List String) : List String → Option String
  | [] => none
  | text :: rest => if text ∈ seen then some text else firstRepeated (text :: seen) rest

namespace RouteConfig

/-- Checks that producers of a kind have different names. -/
def checkNames (field kind : String) (names : List String) : Except ConfigError Unit :=
  match firstRepeated [] names with
  | some name =>
      .error (.invalidValue field ("duplicate " ++ kind ++ " name '" ++ name ++ "'"))
  | none => .ok ()

/-- Checks that every error handler serves some kind. -/
def checkKinds (blocks : List ErrorBlock) : Except ConfigError Unit :=
  if blocks.any fun block => block.kinds.isEmpty then
    .error (.invalidValue "error_handlers" "kinds must not be empty")
  else .ok ()

def validate (config : RouteConfig) : Except ConfigError Unit := do
  let _ ← BodyLimit.parse config.bodyLimit
  checkNames "proxies" "proxy" (config.proxies.map ProxyBlock.name)
  checkNames "requests" "request" (config.requests.map RequestBlock.name)
  checkKinds config.errorBlocks

def page (config : RouteConfig) : ErrorPage := config.errorPage.getD ErrorPage.html

def errorTable (config : RouteConfig) : ErrorTable :=
  ErrorTable.ofList config.page (config.errorBlocks.map fun block => (block.kinds, block.handler))

def options (config : RouteConfig) : Except GatewayError EndpointOptions :=
  match BodyLimit.parse config.bodyLimit with
  | .error error => .error (.configuration error.message)
  | .ok bodyLimit =>
      .ok {
        policy := config.policy
        bodyLimit
        errorPage := config.page
        errorTable := if config.errorBlocks.isEmpty then none else some config.errorTable
        redirect := config.redirect
        response := config.response }

end RouteConfig

structure Route where
  /-- The methods that a refusal names. -/
  advertised : List Method
  /-- The methods that get through to the endpoint. -/
  allowed : List Method
  page : ErrorPage
  endpoint : Endpoint

namespace Route

def sideRequests : List RequestBlock → Except GatewayError (List Producer)
  | [] => .ok []
  | block :: rest => do
      let side ← SideRequest.create block
      let others ← sideRequests rest
      .ok (Producer.side side :: others)

def build (config : RouteConfig) : Except GatewayError Route := do
  let options ← config.options
  let requests ← sideRequests config.requests
  let advertised ← AllowedMethods.resolve config.allowedMethods
  let allowed ← AllowedMethods.resolve config.allowedMethods
  let proxies := config.proxies.map fun block => Producer.proxy block.name block.policy
  .ok { advertised, allowed, page := config.page, endpoint := { options, proxies, requests } }

/-- Serves a request if its method is allowed, and refuses it otherwise. -/
def serve (route : Route) (setting : Producer.Setting) (state : Policy.Logged) :
    Except GatewayError Response × Trace :=
  if state.request.method ∈ route.allowed then route.endpoint.handle setting none state
  else (.ok (AllowedMethods.refuse route.page route.advertised state.request), ⟨state.log, [], 0⟩)

end Route

end Gateway
