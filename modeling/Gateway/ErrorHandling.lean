import Gateway.Answer
import Gateway.ErrorPage

/-!
Answering errors. A table maps error kinds to handlers; an error is served by the handler of its
most specific kind that has one, then by the one for all errors, and by the error page without any.
-/

namespace Gateway

structure ErrorHandler where
  answer : StaticResponse := {}
  policy : Option Policy := none
  deriving DecidableEq, Repr, Inhabited

/-- Handlers by kind, with the page for errors that have none. -/
structure ErrorTable where
  handlers : SortedMap ErrorHandler
  page : ErrorPage
  deriving DecidableEq, Repr, Inhabited

namespace ErrorTable

/-- Builds a table; a kind that is named twice goes to the later handler. -/
def ofList (page : ErrorPage) (handlers : List (List String × ErrorHandler)) : ErrorTable :=
  ⟨SortedMap.ofList (handlers.flatMap fun (kinds, handler) =>
    kinds.map fun kind => (Text.trim kind, handler)), page⟩

def select (table : ErrorTable) (error : GatewayError) : Option ErrorHandler :=
  (error.kinds ++ [wildcardKind]).findSome? table.handlers.get?

end ErrorTable

namespace ErrorHandler

/-- The answer with the handler's response policy, whose failure keeps the response. -/
def respond (handler : ErrorHandler) (environment : Environment) (request : Request) :
    Except GatewayError Response := do
  let view := RequestView.of request
  let response ← handler.answer.toResponse environment view
  match handler.policy with
  | some policy => .ok (policy.applyToResponse environment view response).1
  | none => .ok response

end ErrorHandler

/-- What serving a request comes to, with the log of its context. -/
structure Served where
  outcome : Except GatewayError Response
  log : LogFields

namespace ErrorTable

/-- Records the log fields of a handler, as far as they can be evaluated. -/
def recordFields (handler : ErrorHandler) (environment : Environment) (freshId : String)
    (state : Policy.Logged) : Policy.Logged :=
  match handler.policy with
  | some policy => (policy.recordLogFields environment freshId state).1
  | none => state

/-- Serves the error that is stored in the context of a request. -/
def serve (table : ErrorTable) (environment : Environment) (freshId : String)
    (state : Policy.Logged) : Served :=
  match state.request.context.bind Context.error with
  | none =>
      ⟨.ok (table.page.serve state.request (.internal "missing request error")), state.log⟩
  | some error =>
      match table.select error with
      | none => ⟨.ok (table.page.serve state.request error), state.log⟩
      | some handler =>
          let recorded := recordFields handler environment freshId state
          ⟨handler.respond environment recorded.request, recorded.log⟩

def store (freshId : String) (error : GatewayError) (request : Request) : Request :=
  (request.withContext freshId).mapContext fun context => { context with error := some error }

def serveError (table : ErrorTable) (environment : Environment) (freshId : String)
    (state : Policy.Logged) (error : GatewayError) : Served :=
  table.serve environment freshId { state with request := store freshId error state.request }

/-- An error is served by the handler that is selected for it, or else by the page. -/
theorem serveError_eq (table : ErrorTable) (environment : Environment) (freshId : String)
    (state : Policy.Logged) (error : GatewayError) :
    let request := store freshId error state.request
    table.serveError environment freshId state error =
      match table.select error with
      | none => ⟨.ok (table.page.serve request error), state.log⟩
      | some handler =>
          let recorded := recordFields handler environment freshId { state with request }
          ⟨handler.respond environment recorded.request, recorded.log⟩ := rfl

end ErrorTable

end Gateway
