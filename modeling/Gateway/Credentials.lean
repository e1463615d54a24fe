import Gateway.Base64
import Gateway.Error
import Gateway.Form
import Gateway.Http.HeaderMap

/-!
How the gateway shows who it is at the endpoint of an authorization server: in a Basic header, in
the form, or by its id alone. `Credentials` holds only pairs that fit their method.
-/

namespace Gateway

inductive AuthMethod where
  | clientSecretBasic
  | clientSecretPost
  | none
  deriving DecidableEq, Repr, Inhabited

def AuthMethod.name : AuthMethod → String
  | .clientSecretBasic => "ClientSecretBasic"
  | .clientSecretPost => "ClientSecretPost"
  | .none => "None"

structure Credentials where
  method : AuthMethod
  clientId : String
  clientSecret : String
  hasId : clientId ≠ ""
  hasSecret : method ≠ .none → clientSecret ≠ ""
  deriving DecidableEq, Repr

namespace Credentials

/-- Checks that an id is given, and a secret unless none is sent. -/
def create (method : AuthMethod) (clientId clientSecret : String) :
    Except GatewayError Credentials :=
  if hasId : clientId ≠ "" then
    if hasSecret : method ≠ .none → clientSecret ≠ "" then
      .ok ⟨method, clientId, clientSecret, hasId, hasSecret⟩
    else
      .error (.configuration ("client_secret required for endpoint_auth_method " ++ method.name))
  else .error (.configuration "client_id must not be empty")

/-- Id and secret in written form, joined by a colon. -/
def basicPair (credentials : Credentials) : String :=
  Form.encodeComponent credentials.clientId ++ ":" ++
    Form.encodeComponent credentials.clientSecret

def basicText (credentials : Credentials) : String :=
  "Basic " ++ Base64.encode (Utf8.encode credentials.basicPair)

/-- Adds the credentials to a form or to headers. -/
def authenticate (credentials : Credentials) (form : Form.Params) (headers : HeaderMap) :
    Except GatewayError (Form.Params × HeaderMap) :=
  match credentials.method with
  | .clientSecretBasic =>
      match HeaderValue.parse? credentials.basicText with
      | some value => .ok (form, headers.insert HeaderName.authorization value)
      | none => .error (.configuration ("invalid credentials: " ++ HeaderValue.fault))
  | .clientSecretPost =>
      .ok ((form.add "client_id" credentials.clientId).add "client_secret"
        credentials.clientSecret, headers)
  | .none => .ok (form.add "client_id" credentials.clientId, headers)

end Credentials

end Gateway
