import Gateway.ErrorPage

/-!
Which methods a route serves. The list is resolved from its configuration: names are trimmed and
written in capitals, `*` stands for the common methods, and repeated names are dropped.
-/

namespace Gateway.AllowedMethods

def common : List Method :=
  [.get, .head, .post, .put, .patch, .delete, .options]

/-- Adds a method behind the others unless it is there. -/
def add (methods : List Method) (method : Method) : List Method :=
  if method ∈ methods then methods else methods ++ [method]

def expand (entry : String) : Except GatewayError (List Method) :=
  let name := Text.trim entry
  if name = "*" then .ok common
  else
    match Method.parse? (Text.upper name) with
    | some method => .ok [method]
    | none =>
        .error (.configuration
          ("invalid allowed method '" ++ name ++ "': " ++ Method.fault))

def resolveEntries (methods : List Method) : List String → Except GatewayError (List Method)
  | [] => .ok methods
  | entry :: rest => do
      let more ← expand entry
      resolveEntries (more.foldl add methods) rest

def resolve (entries : Option (List String)) : Except GatewayError (List Method) :=
  match entries with
  | none => .ok common
  | some entries => resolveEntries [] entries

/-- Whether a method name in any letter case is on the list. -/
def allowsName (methods : List Method) (name : String) : Bool :=
  match Method.parse? (Text.upper (Text.trim name)) with
  | some method => method ∈ methods
  | none => false

def allowValue (methods : List Method) : Option HeaderValue :=
  HeaderValue.parse? (", ".intercalate (methods.map Method.text))

/-- The answer to a method that is not on the list. -/
def refuse (page : ErrorPage) (methods : List Method) (request : Request) : Response :=
  let response := page.serve request (.methodNotAllowed request.method.text)
  match allowValue methods with
  | some value => { response with headers := response.headers.insert HeaderName.allow value }
  | none => response

end Gateway.AllowedMethods
