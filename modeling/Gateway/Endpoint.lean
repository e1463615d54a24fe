import Gateway.BodyLimit
import Gateway.ErrorHandling
import Gateway.FanIn

/-!
Endpoints: serving a request of one route. The body is captured if a template reads it, the policy
of the route changes the request, all producers are started, their outcomes are gathered, one
response is selected, changed by the policy and written once. A body that cannot be captured is
answered by the error handlers of the route before anything else takes place; any other failure
aborts the request, and nothing is written.
-/

namespace Gateway

structure EndpointOptions where
  policy : Policy := {}
  /-- Capture the body even if no template reads it. -/
  buffer : Bool := false
  /-- Greatest size of a captured body in bytes. -/
  bodyLimit : Nat := BodyLimit.standard
  errorPage : ErrorPage := .html
  /-- Answers to bodies that are refused; the page answers without any. -/
  errorTable : Option ErrorTable := none
  redirect : Option Redirect := none
  response : Option StaticResponse := none

structure Endpoint where
  options : EndpointOptions
  proxies : List Producer
  requests : List Producer

/-- What serving a request leaves behind besides the response. -/
structure Trace where
  log : LogFields
  /-- What went to backends, in order. -/
  sent : List Request
  /-- When serving ended, in milliseconds. -/
  finished : Nat

namespace Endpoint

/-- Whether a template of the route or of a producer reads the body. -/
def readsBody (endpoint : Endpoint) : Bool :=
  endpoint.options.policy.mustBuffer || endpoint.proxies.any Producer.mustBuffer ||
    endpoint.requests.any Producer.mustBuffer ||
    endpoint.options.redirect.any Redirect.mustBuffer ||
    endpoint.options.response.any StaticResponse.mustBuffer

def buffers (endpoint : Endpoint) : Bool :=
  endpoint.options.buffer || endpoint.readsBody

/-- Captures the body of a request. That is not done for trace requests, nor if it has been captured
before. A body that is refused is used up. -/
def captureBody (endpoint : Endpoint) (freshId : String) (request : Request) :
    Request × Option GatewayError :=
  if endpoint.buffers && request.method ≠ Method.trace then
    let attached := request.withContext freshId
    if (attached.context.bind Context.bufferedBody).isSome then (attached, none)
    else
      match request.body.collectWithin endpoint.options.bodyLimit with
      | .error error => ({ attached with body := .empty }, some error)
      | .ok bytes =>
          (({ attached with body := .ofBytes bytes } : Request).mapContext fun context =>
            { context with bufferedBody := some bytes }, none)
  else (request, none)

def refuse (endpoint : Endpoint) (environment : Environment) (freshId : String)
    (state : Policy.Logged) (error : GatewayError) : Served :=
  match endpoint.options.errorTable with
  | some table => table.serveError environment freshId state error
  | none => ⟨.ok (endpoint.options.errorPage.serve state.request error), state.log⟩

structure Started where
  log : LogFields
  proxies : List Work
  requests : List Work

/-- Starts all producers: the proxies get their copies of the request first. -/
def start (endpoint : Endpoint) (setting : Producer.Setting) (state : Policy.Logged) : Started :=
  let client := ClientRequest.ofRequest state.request
  let first := client.requestsFor setting.freshId (endpoint.proxies.map Producer.name)
  let second := first.2.requestsFor setting.freshId (endpoint.requests.map Producer.name)
  let proxies := Producer.startAll setting state.log (endpoint.proxies.zip first.1)
  let requests := Producer.startAll setting proxies.1 (endpoint.requests.zip second.1)
  ⟨requests.1, proxies.2, requests.2⟩

def Started.sent (started : Started) : List Request :=
  (started.proxies ++ started.requests).filterMap Work.sent

def Started.finished (started : Started) (cancelAt : Option Nat) : Nat :=
  ((started.proxies ++ started.requests).map fun work => work.endTime cancelAt).foldl max 0

def Started.outcomes (endpoint : Endpoint) (started : Started) (cancelAt : Option Nat) : Outcomes :=
  FanIn.gather (Report.ofWorks cancelAt endpoint.proxies started.proxies)
    (Report.ofWorks cancelAt endpoint.requests started.requests)

/-- The response of a route: its redirect, else its fixed response, else its only outcome. -/
def select (options : EndpointOptions) (environment : Environment) (view : RequestView)
    (outcomes : Outcomes) : Except GatewayError Response :=
  match options.redirect, options.response, outcomes with
  | some redirect, _, _ => redirect.toResponse environment view
  | none, some response, _ => response.toResponse environment view
  | none, none, [] => .error (.configuration "endpoint has no response source")
  | none, none, [(_, outcome)] => outcome
  | none, none, outcomes =>
      .error (.configuration
        ("endpoint produced " ++ toString outcomes.length ++ " results, expected exactly one"))

/-- The response for a request whose body was taken, if it is not aborted. -/
def produce (endpoint : Endpoint) (setting : Producer.Setting) (cancelAt : Option Nat)
    (state : Policy.Logged) : Except GatewayError Response × Trace :=
  let policy := endpoint.options.policy
  let changed := (policy.applyToRequest setting.environment setting.freshId state).1
  let view := RequestView.of changed.request
  let started := endpoint.start setting changed
  let outcomes := started.outcomes endpoint cancelAt
  let selected := select endpoint.options setting.environment view outcomes
  (selected.map fun response => (policy.applyToResponse setting.environment view response).1,
    ⟨started.log, started.sent, started.finished cancelAt⟩)

def servingLabel : Nat := 0

/-- A request with a context under a token of its own. -/
def underOwnToken (freshId : String) (request : Request) : Request :=
  (request.withContext freshId).mapContext fun context =>
    { context with token := context.token.child servingLabel }

/-- What is cancelled when serving a request ends, in whatever way it does. -/
def cancelledAtEnd (freshId : String) (request : Request) : List Token :=
  (underOwnToken freshId request).context.toList.map Context.token

def respond (endpoint : Endpoint) (setting : Producer.Setting) (cancelAt : Option Nat)
    (state : Policy.Logged) : Except GatewayError Response × Trace :=
  match endpoint.captureBody setting.freshId (underOwnToken setting.freshId state.request) with
  | (request, none) => endpoint.produce setting cancelAt { state with request }
  | (request, some error) =>
      let served := endpoint.refuse setting.environment setting.freshId { state with request } error
      (served.outcome, ⟨served.log, [], 0⟩)

/-- Where a response goes: the state after a write, and why the write failed if it did. -/
abbrev Writer (State : Type) := State → Response → State × Option GatewayError

/-- Serves a request: writes the response, or says why the request is aborted. A write that fails is
not tried again. -/
def serve {State : Type} (endpoint : Endpoint) (setting : Producer.Setting) (cancelAt : Option Nat)
    (write : Writer State) (target : State) (state : Policy.Logged) :
    (State × Except GatewayError Unit) × Trace :=
  match endpoint.respond setting cancelAt state with
  | (.ok response, trace) => (((write target response).1, .ok ()), trace)
  | (.error error, trace) => ((target, .error error), trace)

end Endpoint

abbrev ResponseSlot := Option Response

namespace ResponseSlot

def write : Endpoint.Writer ResponseSlot
  | none, response => (some response, none)
  | some kept, _ => (some kept, some (.internal "response already written"))

end ResponseSlot

namespace Endpoint

/-- Serves a request through a slot. -/
def handle (endpoint : Endpoint) (setting : Producer.Setting) (cancelAt : Option Nat)
    (state : Policy.Logged) : Except GatewayError Response × Trace :=
  match endpoint.serve setting cancelAt ResponseSlot.write none state with
  | ((_, .error error), trace) => (.error error, trace)
  | ((some response, .ok ()), trace) => (.ok response, trace)
  | ((none, .ok ()), trace) => (.error (.internal "endpoint wrote no response"), trace)

end Endpoint

end Gateway
