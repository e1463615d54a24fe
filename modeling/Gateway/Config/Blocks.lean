import Gateway.Config.Tree
import Gateway.Introspection.Exchange
import Gateway.Route

/-!
The blocks of a configuration as trees: which fields a block has, which of them may be left out, and
what they are then.
-/

namespace Gateway.Config

open Reader

def texts : Reader (SortedMap String) := sortedMap text

def duration : Reader Duration := fun tree =>
  (text tree).bind fun written => (Duration.parse written).toOption

/-- One more than the greatest status. -/
def statusBound : Nat := 65536

def status : Reader (Option Nat) := optional (whole statusBound)

def headerPolicy : Reader HeaderPolicy := fun tree => do
  let record ← fields ["set", "add", "remove"] tree
  let set ← field record "set" texts (some [])
  let add ← field record "add" texts (some [])
  let remove ← field record "remove" (list text) (some [])
  some { set, add, remove }

def websocketsBlock : Reader WebsocketsBlock := fun tree => do
  let record ← fields ["timeout", "request"] tree
  let timeout ← field record "timeout" (optional text) (some none)
  let request ← field record "request" headerPolicy (some {})
  some { timeout, request }

def policy : Reader Policy := fun tree => do
  let record ← fields
    ["request", "response", "url", "websockets", "backends", "custom_log_fields"] tree
  let request ← field record "request" headerPolicy (some {})
  let response ← field record "response" headerPolicy (some {})
  let url ← field record "url" (optional text) (some none)
  let websockets ← field record "websockets" (list websocketsBlock) (some [])
  let backends ← field record "backends" (list text) (some [])
  let customLogFields ← field record "custom_log_fields" texts (some [])
  some { request, response, url, websockets, backends, customLogFields }

def redirect : Reader Redirect := fun tree => do
  let record ← fields ["url", "status", "headers"] tree
  let url ← field record "url" text none
  let status ← field record "status" status (some none)
  let headers ← field record "headers" texts (some [])
  some { url, status, headers }

def staticResponse : Reader StaticResponse := fun tree => do
  let record ← fields ["status", "headers", "body"] tree
  let status ← field record "status" status (some none)
  let headers ← field record "headers" texts (some [])
  let body ← field record "body" (optional text) (some none)
  some { status, headers, body }

def errorPage : Reader ErrorPage := fun tree => do
  let record ← fields ["content_type", "template"] tree
  let contentType ← field record "content_type" text (some ErrorPage.html.contentType)
  let template ← field record "template" text (some ErrorPage.html.template)
  some { contentType, template }

def proxyBlock : Reader ProxyBlock := fun tree => do
  let record ← fields ["name", "policy"] tree
  let name ← field record "name" text (some "default")
  let policy ← field record "policy" policy (some {})
  some { name, policy }

def requestBlock : Reader RequestBlock := fun tree => do
  let record ← fields ["name", "url", "method", "headers", "body"] tree
  let name ← field record "name" text (some "default")
  let url ← field record "url" text none
  let method ← field record "method" text (some "GET")
  let headers ← field record "headers" texts (some [])
  let body ← field record "body" (optional text) (some none)
  some { name, url, method, headers, body }

def errorBlock : Reader ErrorBlock := fun tree => do
  let record ← fields ["kinds", "response", "policy"] tree
  let kinds ← field record "kinds" (list text) none
  let answer ← field record "response" staticResponse (some {})
  let policy ← field record "policy" (optional policy) (some none)
  some { kinds, handler := { answer, policy } }

def route : Reader RouteConfig := fun tree => do
  let record ← fields
    ["request_body_limit", "policy", "redirect", "response", "error_template", "allowed_methods",
      "proxies", "requests", "error_handlers"] tree
  let bodyLimit ← field record "request_body_limit" (optional text) (some none)
  let policy ← field record "policy" policy (some {})
  let redirect ← field record "redirect" (optional redirect) (some none)
  let response ← field record "response" (optional staticResponse) (some none)
  let errorPage ← field record "error_template" (optional errorPage) (some none)
  let allowedMethods ← field record "allowed_methods" (optional (list text)) (some none)
  let proxies ← field record "proxies" (list proxyBlock) (some [])
  let requests ← field record "requests" (list requestBlock) (some [])
  let errorBlocks ← field record "error_handlers" (list errorBlock) (some [])
  some { bodyLimit, policy, redirect, response, errorPage, allowedMethods, proxies, requests,
         errorBlocks }

def authMethodOf (name : String) : Option AuthMethod :=
  if name = "client_secret_basic" then some .clientSecretBasic
  else if name = "client_secret_post" then some .clientSecretPost
  else if name = "none" then some .none
  else none

/-- The local tag that may stand before the name of a method; no other may. -/
def authMethodTag : String := "EndpointAuthMethod"

/-- The place of credentials: a name, or a map with the name as its only key and no value. -/
def authMethod : Reader AuthMethod
  | .map [(.text name, .null)] => authMethodOf name
  | .map [(.scalar name, value)] => if value.isAbsent then authMethodOf name.text else none
  | .scalar scalar =>
      if scalar.kind.localName?.any (· ≠ authMethodTag) then none
      else authMethodOf scalar.text
  | .text name => authMethodOf name
  | _ => none

def introspection : Reader IntrospectionConfig := fun tree => do
  let record ← fields
    ["endpoint", "ttl", "endpoint_auth_method", "client_id", "client_secret", "timeout"] tree
  let endpoint ← field record "endpoint" text none
  let ttl ← field record "ttl" (optional duration) (some none)
  let authMethod ← field record "endpoint_auth_method" authMethod (some .clientSecretBasic)
  let clientId ← field record "client_id" text none
  let clientSecret ← field record "client_secret" text (some "")
  let timeout ← field record "timeout" (optional duration) (some none)
  some { endpoint, ttl, authMethod, clientId, clientSecret, timeout }

end Gateway.Config
