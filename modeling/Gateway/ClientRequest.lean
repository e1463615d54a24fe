import Gateway.Http.Message

/-!
One client request for many producers. A buffered body goes to each of them; a body that is only
streamed goes to the first, and the others get an empty one. Every copy has a context of its own
below that of the client.
-/

namespace Gateway

/-- A request with what is left of it for further producers. -/
structure ClientRequest where
  request : Request
  /-- The body, if nobody has taken it. -/
  stream : Option Body
  /-- How many copies were made. -/
  issued : Nat
  deriving DecidableEq, Repr, Inhabited

namespace ClientRequest

def ofRequest (request : Request) : ClientRequest := ⟨request, some request.body, 0⟩

def buffered (client : ClientRequest) : Option Bytes :=
  client.request.context.bind Context.bufferedBody

def nextBody (client : ClientRequest) : Body :=
  match client.buffered with
  | some bytes => Body.ofBytes bytes
  | none => client.stream.getD Body.empty

def nextContext (client : ClientRequest) (name freshId : String) : Context :=
  (client.request.context.getD (Context.new freshId)).child (some name) client.issued

/-- The copy for a producer, with what is left. -/
def requestFor (client : ClientRequest) (name freshId : String) : Request × ClientRequest :=
  ({ client.request with
      body := client.nextBody
      context := some (client.nextContext name freshId) },
    { client with
      stream := if client.buffered.isSome then client.stream else none
      issued := client.issued + 1 })

def requestsFor (freshId : String) (client : ClientRequest) :
    List String → List Request × ClientRequest
  | [] => ([], client)
  | name :: rest =>
      let first := client.requestFor name freshId
      let others := requestsFor freshId first.2 rest
      (first.1 :: others.1, others.2)

end ClientRequest

end Gateway
