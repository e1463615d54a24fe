import Gateway.Backend
import Gateway.Duration
import Gateway.Policy
import Gateway.Url.Address

/-!
Proxies: the client's request is changed by a policy, pointed at its destination, relieved of
credentials and of headers that belong to one connection, and sent on. The stages run in order and
stop at the first failure; nothing is sent after one. The response is changed by the policy too, but
a failure there keeps it as far as it was changed.
-/

namespace Gateway.Proxy

/-- A change of a request with its log, which may fail on the way. -/
abbrev Stage := Policy.Logged → Policy.Logged × Option GatewayError

/-- Two stages in order; the second is skipped after a failure. -/
def andThen (first second : Stage) : Stage := fun state =>
  match first state with
  | (changed, none) => second changed
  | (changed, some error) => (changed, some error)

def credentialHeaders : List HeaderName := [HeaderName.authorization, HeaderName.cookie]

def hopByHopNames : List String :=
  ["keep-alive", "proxy-authenticate", "proxy-authorization", "te", "trailers"]

/-- Whether a header belongs to one connection. Upgrade headers and the transfer coding are passed
on. -/
def isHopByHop (name : String) : Bool :=
  Text.lower name ∈ hopByHopNames

/-- Removes what must not reach the destination. -/
def strip (headers : HeaderMap) : HeaderMap :=
  let kept := headers.removeAll credentialHeaders
  -- removing a name moves the last entry, so the names are looked at before the first one goes
  kept.removeAll (kept.names.filter fun name => isHopByHop name.text)

def timeoutText (block : WebsocketsBlock) : Option String :=
  block.timeout.filter fun text => Text.trim text ≠ ""

def readTimeout (block : WebsocketsBlock) (freshId : String) : Stage := fun state =>
  match timeoutText block with
  | none => (state, none)
  | some text =>
      match Duration.parse text with
      | .error message => (state, some (.configuration ("websockets timeout: " ++ message)))
      | .ok timeout =>
          let request := (state.request.withContext freshId).mapContext fun context =>
            { context with websocketsTimeout := some timeout }
          ({ state with request }, none)

def changeHeaders (block : WebsocketsBlock) (environment : Environment) : Stage := fun state =>
  let result := Policy.changeRequest block.request environment state.request
  ({ state with request := result.1 }, result.2)

/-- Permits upgrades and prepares a request that asks for one. -/
def permitUpgrade (block : WebsocketsBlock) (environment : Environment) (freshId : String) :
    Stage := fun state =>
  let request := (state.request.withContext freshId).mapContext fun context =>
    { context with allowWebsockets := true }
  if request.isUpgrade then
    andThen (changeHeaders block environment) (readTimeout block freshId) { state with request }
  else ({ state with request }, none)

/-- The failure of a policy with more than one block of a kind. -/
def tooMany (kind : String) : GatewayError :=
  .configuration ("too many " ++ kind ++ " blocks, only one is allowed")

def applyWebsockets (policy : Policy) (environment : Environment) (freshId : String) :
    Stage := fun state =>
  if 1 < policy.websockets.length then (state, some (tooMany "websockets"))
  else if 1 < policy.backends.length then (state, some (tooMany "backend"))
  else
    match policy.websockets with
    | block :: _ => permitUpgrade block environment freshId state
    | [] => (state, none)

def readDestination (target : String) : Except GatewayError Url.Address :=
  match Url.parse target with
  | .error fault => .error (.invalidUri ("invalid url '" ++ target ++ "': " ++ fault.message))
  | .ok (.other _) => .error (.invalidUri ("unsupported scheme in url '" ++ target ++ "'"))
  | .ok (.web address) => .ok address

/-- The text of a request target at a destination. The path of the destination replaces that of the
request unless it is the root, its query if there is one. -/
def destinationText (uri : Uri) (address : Url.Address) : String :=
  let path := if address.path = "" ∨ address.path = "/" then uri.path else address.path
  let query := match address.query.or uri.query with
    | some query => "?" ++ query
    | none => ""
  address.scheme ++ "://" ++ address.authority ++ path ++ query

def aim (uri : Uri) (address : Url.Address) : Except GatewayError Uri :=
  match Uri.parse (destinationText uri address) with
  | .ok uri => .ok uri
  | .error fault => .error (.invalidUri ("failed to parse URI: " ++ fault.message))

def hostValue (authority : String) : Except GatewayError HeaderValue :=
  match HeaderValue.parse? authority with
  | some value => .ok value
  | none =>
      .error (.invalidUri ("invalid host '" ++ authority ++ "': " ++ HeaderValue.fault))

def redirect (request : Request) (target : String) : Except GatewayError Request := do
  let address ← readDestination target
  let uri ← aim request.uri address
  let host ← hostValue address.authority
  .ok { request with uri, headers := request.headers.insert HeaderName.host host }

def pointTo (target : String) : Stage := fun state =>
  match redirect state.request target with
  | .ok request => ({ state with request }, none)
  | .error error => (state, some error)

/-- Points a request at the rendered address of the policy, which is kept in the context; an empty
text leaves the request where it is. -/
def pointToUrl (template : String) (environment : Environment) (freshId : String) :
    Stage := fun state =>
  let scope := Scope.ofRequest environment (RequestView.of state.request)
  match scope.render template with
  | .error error => (state, some error)
  | .ok url =>
      if url = "" then (state, none)
      else
        let request := (state.request.withContext freshId).mapContext fun context =>
          { context with urlAttribute := some url }
        pointTo url { state with request }

/-- Points a request at the destination of a policy: its address or else its origin. -/
def applyUrl (policy : Policy) (environment : Environment) (freshId : String) :
    Stage := fun state =>
  match policy.url, policy.backends with
  | some template, _ => pointToUrl template environment freshId state
  | none, origin :: _ => pointTo origin state
  | none, [] => (state, none)

/-- Strips a request and makes sure that it has a context. -/
def direct (freshId : String) : Stage := fun state =>
  let stripped : Request := { state.request with headers := strip state.request.headers }
  ({ state with request := stripped.withContext freshId }, none)

/-- Everything that is done before a request is sent. -/
def prepare (policy : Policy) (environment : Environment) (freshId : String) : Stage :=
  andThen (policy.applyToRequest environment freshId)
    (andThen (applyWebsockets policy environment freshId)
      (andThen (applyUrl policy environment freshId) (direct freshId)))

def finish (policy : Policy) (environment : Environment) (outbound : Request)
    (response : Response) : Response :=
  (policy.applyToResponse environment (RequestView.of outbound) response).1

/-- The protocol that an outbound request asks for, if the proxy permits it. -/
def upgradeProtocol (outbound : Request) : Option String :=
  if outbound.context.any Context.allowWebsockets && outbound.isUpgrade then
    outbound.upgradeProtocol
  else none

end Gateway.Proxy
