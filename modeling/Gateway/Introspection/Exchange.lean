import Gateway.Credentials
import Gateway.Http.Message
import Gateway.Introspection.Claims
import Gateway.Url.Address

/-!
One call to the introspection endpoint: the request that is sent for a token and the reading of the
reply.
-/

namespace Gateway

structure IntrospectionConfig where
  endpoint : String
  /-- How long answers are kept; nothing is kept without it. -/
  ttl : Option Duration := none
  authMethod : AuthMethod := .clientSecretBasic
  clientId : String
  clientSecret : String := ""
  /-- Bound on the time of a call. -/
  timeout : Option Duration := none
  deriving DecidableEq, Repr, Inhabited

namespace IntrospectionConfig

/-- The time to keep answers in whole seconds. -/
def ttlSeconds (config : IntrospectionConfig) : Int :=
  match config.ttl with
  | some ttl => min (ttl.seconds : Int) Json.maxInt64
  | none => 0

/-- Checks that the endpoint is an absolute web address. -/
def validate (config : IntrospectionConfig) : Except ConfigError Unit :=
  match Url.parse config.endpoint with
  | .error fault => .error (.invalidUrl config.endpoint fault.message)
  | .ok (.other _) => .error (.invalidUrl config.endpoint "scheme must be http or https")
  | .ok (.web _) => .ok ()

end IntrospectionConfig

/-- The answer of a server: what it comes to after some milliseconds, and how many more the body of
a response takes. -/
structure Reply where
  delay : Nat := 0
  bodyDelay : Nat := 0
  outcome : Except GatewayError Response

/-- The body is read behind status 200 only. -/
def Reply.bodyTime (reply : Reply) : Nat :=
  match reply.outcome with
  | .error _ => 0
  | .ok response => if response.status.code = 200 then reply.bodyDelay else 0

/-- Puts credentials into a form or into its request, or says why they cannot be put there. -/
abbrev Authenticator := Form.Params → Request → Except GatewayError (Form.Params × Request)

def Credentials.authenticator (credentials : Credentials) : Authenticator := fun form request =>
  (credentials.authenticate form request.headers).map fun (form, headers) =>
    (form, { request with headers })

/-- A block that looks tokens up. -/
structure Introspector where
  config : IntrospectionConfig
  authenticator : Authenticator

namespace Introspector

/-- Checks the settings and takes the credentials that they configure. -/
def create (config : IntrospectionConfig) : Except GatewayError Introspector := do
  match config.validate with
  | .error error => .error (.configuration error.message)
  | .ok () =>
      let credentials ←
        Credentials.create config.authMethod config.clientId config.clientSecret
      .ok ⟨config, credentials.authenticator⟩

def roundTripName : String := "introspection"

def formType : HeaderValue := ⟨Utf8.encode "application/x-www-form-urlencoded", by decide⟩

def jsonType : HeaderValue := ⟨Utf8.encode "application/json", by decide⟩

/-- The request about a token as it is before a call takes it into its context. -/
def prepare (introspector : Introspector) (token : String) : Except GatewayError Request :=
  match Uri.parse introspector.config.endpoint with
  | .error fault => .error (.configuration ("introspection endpoint: " ++ fault.message))
  | .ok uri => do
      let headers := (HeaderMap.empty.insert HeaderName.contentType formType).insert
        HeaderName.accept jsonType
      let (form, request) ← introspector.authenticator [("token", token)]
        { method := Method.post, uri, headers, body := Body.empty, context := none }
      .ok { request with body := Body.ofText form.encode }

def request (introspector : Introspector) (context : Context) (token : String) :
    Except GatewayError Request :=
  (introspector.prepare token).map fun request =>
    { request with context := some (context.child (some roundTripName) 0) }

/-- The bound on the time of a call that its reply does not keep. The body may take longer. -/
def brokenLimit (introspector : Introspector) (reply : Reply) : Option Duration :=
  introspector.config.timeout.filter fun limit => limit.millisUp < reply.delay

/-- After how many milliseconds a call ends: with its time-out, or when its reply has been read. -/
def duration (introspector : Introspector) (reply : Reply) : Nat :=
  match introspector.brokenLimit reply with
  | some limit => limit.millisUp
  | none => reply.delay + reply.bodyTime

/-- Reads a reply: the claims with the bytes they were read from. -/
def judge (introspector : Introspector) (reply : Reply) : Except GatewayError (Claims × Bytes) :=
  match introspector.brokenLimit reply with
  | some limit => .error (.introspectionTransport ("no response within " ++ limit.text))
  | none =>
      match reply.outcome with
      | .error error => .error (.introspectionTransport error.message)
      | .ok response =>
          if response.status.code ≠ 200 then .error (.introspectionStatus response.status.code)
          else
            match response.body.collect with
            | .error error => .error (.introspectionRead error.message)
            | .ok bytes =>
                match Claims.ofBytes? bytes with
                | some claims => .ok (claims, bytes)
                | none => .error (.introspectionDecode "expected an object")

end Introspector

end Gateway
