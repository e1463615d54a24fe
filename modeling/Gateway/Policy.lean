import Gateway.Scope

/-!
Policies: what a route or a proxy changes in the messages that pass. The changes of headers are a
list of operations in the order remove, set, add; they are carried out until one fails, and what was
done before a failure stays done.
-/

namespace Gateway

def headerName (name : String) : Except GatewayError HeaderName :=
  match HeaderName.parse? name with
  | some parsed => .ok parsed
  | none =>
      .error (.evaluation ("invalid header name '" ++ name ++ "': " ++ HeaderName.fault))

def headerValue (name value : String) : Except GatewayError HeaderValue :=
  match HeaderValue.parse? value with
  | some parsed => .ok parsed
  | none =>
      .error (.evaluation
        ("invalid value for header '" ++ name ++ "': " ++ HeaderValue.fault))

structure HeaderPolicy where
  set : SortedMap String := []
  add : SortedMap String := []
  remove : List String := []
  deriving DecidableEq, Repr, Inhabited

inductive HeaderChange where
  | remove (name : String)
  | set (name template : String)
  | add (name template : String)
  deriving DecidableEq, Repr

namespace HeaderChange

/-- Reads the name of a change with its rendered value; the value is checked first. -/
def resolve (scope : Scope) (name template : String) :
    Except GatewayError (HeaderName × HeaderValue) := do
  let text ← scope.render template
  let value ← headerValue name text
  let name ← headerName name
  .ok (name, value)

def apply (scope : Scope) (headers : HeaderMap) : HeaderChange → Except GatewayError HeaderMap
  | .remove name => (headerName name).map headers.remove
  | .set name template =>
      (resolve scope name template).map fun (name, value) => headers.insert name value
  | .add name template =>
      (resolve scope name template).map fun (name, value) => headers.append name value

/-- Carries out changes until one fails: the headers after it and the failure. -/
def applyAll (scope : Scope) (headers : HeaderMap) :
    List HeaderChange → HeaderMap × Option GatewayError
  | [] => (headers, none)
  | change :: rest =>
      match change.apply scope headers with
      | .ok headers => applyAll scope headers rest
      | .error error => (headers, some error)

end HeaderChange

def referencesBody (template : String) : Bool :=
  Text.contains template "request.body" || Text.contains template "request.json_body"

namespace HeaderPolicy

def changes (policy : HeaderPolicy) : List HeaderChange :=
  policy.remove.map .remove ++ policy.set.map (fun pair => .set pair.1 pair.2) ++
    policy.add.map (fun pair => .add pair.1 pair.2)

def apply (policy : HeaderPolicy) (scope : Scope) (headers : HeaderMap) :
    HeaderMap × Option GatewayError :=
  HeaderChange.applyAll scope headers policy.changes

def templates (policy : HeaderPolicy) : List String :=
  policy.set.map Prod.snd ++ policy.add.map Prod.snd

end HeaderPolicy

structure WebsocketsBlock where
  timeout : Option String := none
  /-- Changes to upgrade requests only. -/
  request : HeaderPolicy := {}
  deriving DecidableEq, Repr, Inhabited

/-- What is changed in the messages of a route or a proxy. -/
structure Policy where
  request : HeaderPolicy := {}
  response : HeaderPolicy := {}
  /-- Address of the destination; its scheme and authority replace those of the request. -/
  url : Option String := none
  websockets : List WebsocketsBlock := []
  /-- Origins, used where there is no `url`. -/
  backends : List String := []
  customLogFields : SortedMap String := []
  deriving DecidableEq, Repr, Inhabited

namespace Policy

def templates (policy : Policy) : List String :=
  policy.request.templates ++ policy.response.templates ++ policy.url.toList ++
    policy.websockets.flatMap (fun block => block.request.templates) ++
    policy.customLogFields.map Prod.snd

def mustBuffer (policy : Policy) : Bool :=
  policy.templates.any referencesBody

/-- Records fields in order until one fails. -/
def recordFields (scope : Scope) (log : LogFields) :
    List (String × String) → LogFields × Option GatewayError
  | [] => (log, none)
  | (key, template) :: rest =>
      match scope.render template with
      | .ok text => recordFields scope (log.insert key text) rest
      | .error error => (log, some error)

/-- A request with the log of its context. -/
structure Logged where
  request : Request
  log : LogFields

/-- Records the log fields of the policy. A context is attached if there are any. -/
def recordLogFields (policy : Policy) (environment : Environment) (freshId : String)
    (state : Logged) : Logged × Option GatewayError :=
  if policy.customLogFields.isEmpty then (state, none)
  else
    let scope := Scope.ofRequest environment (RequestView.of state.request)
    let result := recordFields scope state.log policy.customLogFields
    (⟨state.request.withContext freshId, result.1⟩, result.2)

def changeRequest (changes : HeaderPolicy) (environment : Environment) (request : Request) :
    Request × Option GatewayError :=
  let scope := Scope.ofRequest environment (RequestView.of request)
  let result := changes.apply scope request.headers
  ({ request with headers := result.1 }, result.2)

/-- Changes the headers of a request and records the log fields, which is skipped after a
failure. -/
def applyToRequest (policy : Policy) (environment : Environment) (freshId : String)
    (state : Logged) : Logged × Option GatewayError :=
  match changeRequest policy.request environment state.request with
  | (request, some error) => (⟨request, state.log⟩, some error)
  | (request, none) => policy.recordLogFields environment freshId ⟨request, state.log⟩

def applyToResponse (policy : Policy) (environment : Environment) (view : RequestView)
    (response : Response) : Response × Option GatewayError :=
  let scope : Scope := ⟨environment, view, some (ResponseView.of response)⟩
  let result := policy.response.apply scope response.headers
  ({ response with headers := result.1 }, result.2)

end Policy

end Gateway
