import Gateway.Policy

/-!
Configured answers: redirects and fixed responses whose parts are templates. An answer is built from
the view of a request or fails as a whole.
-/

namespace Gateway

def configuredStatus (code : Nat) : Except GatewayError Status :=
  match Status.ofNat? code with
  | some status => .ok status
  | none =>
      .error (.configuration ("invalid status " ++ toString code ++ ": " ++ Status.fault))

/-- Renders headers in order, each name keeping the last of its values. -/
def renderHeaders (scope : Scope) (headers : HeaderMap) :
    List (String × String) → Except GatewayError HeaderMap
  | [] => .ok headers
  | (name, template) :: rest => do
      let (name, value) ← HeaderChange.resolve scope name template
      renderHeaders scope (headers.insert name value) rest

structure Redirect where
  /-- Template of the new location. -/
  url : String
  status : Option Nat := none
  headers : SortedMap String := []
  deriving DecidableEq, Repr, Inhabited

namespace Redirect

/-- The status of a redirect: 301 without one or with zero. -/
def statusOf (redirect : Redirect) : Except GatewayError Status :=
  match redirect.status with
  | none => .ok Status.movedPermanently
  | some 0 => .ok Status.movedPermanently
  | some code => configuredStatus code

def toResponse (redirect : Redirect) (environment : Environment) (view : RequestView) :
    Except GatewayError Response := do
  let scope := Scope.ofRequest environment view
  let status ← redirect.statusOf
  let location ← scope.render redirect.url
  let value ← headerValue "location" location
  let headers ← renderHeaders scope (HeaderMap.empty.insert HeaderName.location value)
    redirect.headers
  .ok ⟨status, headers, Body.empty⟩

def mustBuffer (redirect : Redirect) : Bool :=
  referencesBody redirect.url || (redirect.headers.map Prod.snd).any referencesBody

end Redirect

structure StaticResponse where
  status : Option Nat := none
  headers : SortedMap String := []
  /-- Template of the body. -/
  body : Option String := none
  deriving DecidableEq, Repr, Inhabited

namespace StaticResponse

def toResponse (answer : StaticResponse) (environment : Environment) (view : RequestView) :
    Except GatewayError Response := do
  let scope := Scope.ofRequest environment view
  let status ← match answer.status with
    | some code => configuredStatus code
    | none => .ok Status.ok
  let body ← match answer.body with
    | some template => (scope.render template).map Body.ofText
    | none => .ok Body.empty
  let headers ← renderHeaders scope .empty answer.headers
  .ok ⟨status, headers, body⟩

def mustBuffer (answer : StaticResponse) : Bool :=
  answer.body.any referencesBody || (answer.headers.map Prod.snd).any referencesBody

end StaticResponse

end Gateway
