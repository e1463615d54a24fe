import Gateway.Duration
import Gateway.Error
import Gateway.SortedMap

/-!
The state that accompanies a request. A context has fields of its own; it shares its log with every
context derived from the same start, and its cancellation token is a place in a tree, where
cancelling a token cancels all tokens below it.
-/

namespace Gateway

/-- A place in a tree of cancellation tokens: its own label in front of those of its ancestors. -/
abbrev Token := List Nat

namespace Token

def child (token : Token) (label : Nat) : Token := label :: token

/-- Whether cancelling `ancestor` cancels `token`. -/
def isBelow (token ancestor : Token) : Bool :=
  ancestor.isSuffixOf token

/-- Whether one of the cancelled tokens is the token itself or an ancestor. -/
def isCancelled (cancelled : List Token) (token : Token) : Bool :=
  cancelled.any token.isBelow

theorem isBelow_iff {token ancestor : Token} :
    token.isBelow ancestor = true ↔ ancestor <:+ token :=
  List.isSuffixOf_iff_suffix

theorem isCancelled_iff {token : Token} {cancelled : List Token} :
    token.isCancelled cancelled = true ↔ ∃ hit ∈ cancelled, hit <:+ token := by
  simp [isCancelled, isBelow_iff]

end Token

abbrev LogFields := SortedMap String

/-- State of one request or of one round trip made for it. -/
structure Context where
  requestId : String
  /-- Name of the round trip the request belongs to. -/
  roundTripName : Option String := none
  /-- Copy of the client's body that can be replayed. -/
  bufferedBody : Option Bytes := none
  /-- The proxy permits protocol upgrades. -/
  allowWebsockets : Bool := false
  websocketsTimeout : Option Duration := none
  /-- The address that a policy rendered. -/
  urlAttribute : Option String := none
  /-- The error that the request is answered with. -/
  error : Option GatewayError := none
  token : Token := []
  /-- Which log the fields of the context go to. -/
  log : Nat := 0
  deriving DecidableEq, Repr, Inhabited

namespace Context

def new (requestId : String) : Context := { requestId }

/-- The context of a round trip: it keeps the request id, the buffered body and the log, gets the
child token under a label and starts without state of its own. -/
def child (context : Context) (roundTripName : Option String) (label : Nat) : Context :=
  { requestId := context.requestId
    roundTripName
    bufferedBody := context.bufferedBody
    token := context.token.child label
    log := context.log }

end Context

end Gateway
