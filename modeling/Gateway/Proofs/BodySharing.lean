import Gateway.Proofs.Transparency

/-!
One body for many producers. Whoever asks and in whatever order, a captured body goes to each copy of
a request, and a streamed one to the first copy only. Every copy is otherwise the request itself in a
context of its own, which knows nothing of the other copies and is cancelled with the request.
-/

namespace Gateway

namespace Token

variable {token : Token} {cancelled : List Token}

def Apart (left right : Token) : Prop :=
  left.isBelow right = false ∧ right.isBelow left = false

theorem isCancelled_child (label : Nat) (along : token.isCancelled cancelled = true) :
    (token.child label).isCancelled cancelled = true := by
  obtain ⟨hit, member, above⟩ := isCancelled_iff.mp along
  exact isCancelled_iff.mpr ⟨hit, member, above.trans (List.suffix_cons label token)⟩

theorem not_isBelow_child (token : Token) (label : Nat) :
    token.isBelow (token.child label) = false := by
  rw [← Bool.not_eq_true, isBelow_iff]
  intro above
  have length := above.length_le
  simp [child] at length

theorem not_isBelow_sibling {left right : Nat} (different : left ≠ right) :
    (token.child left).isBelow (token.child right) = false := by
  rw [← Bool.not_eq_true, isBelow_iff]
  intro above
  have same : token.child right = token.child left := above.eq_of_length rfl
  exact different (List.cons.inj same).1.symm

theorem apart_siblings (token : Token) {left right : Nat} (different : left ≠ right) :
    (token.child left).Apart (token.child right) :=
  ⟨not_isBelow_sibling different, not_isBelow_sibling different.symm⟩

end Token

/-- The context of a round trip under a name: the id, the body and the log are those of the client,
nothing else is left of its state, and cancelling the client cancels the round trip. -/
structure Context.IsRoundTrip (own : Context) (name : String) (client : Context) : Prop where
  requestId : own.requestId = client.requestId
  roundTripName : own.roundTripName = some name
  bufferedBody : own.bufferedBody = client.bufferedBody
  log : own.log = client.log
  allowWebsockets : own.allowWebsockets = false
  websocketsTimeout : own.websocketsTimeout = none
  urlAttribute : own.urlAttribute = none
  error : own.error = none
  cancelledAlong : ∀ cancelled, client.token.isCancelled cancelled = true →
    own.token.isCancelled cancelled = true

theorem Context.child_isRoundTrip (client : Context) (name : String) (label : Nat) :
    (client.child (some name) label).IsRoundTrip name client where
  requestId := rfl
  roundTripName := rfl
  bufferedBody := rfl
  log := rfl
  allowWebsockets := rfl
  websocketsTimeout := rfl
  urlAttribute := rfl
  error := rfl
  cancelledAlong _ := Token.isCancelled_child label

namespace Request

def token? (request : Request) : Option Token := request.context.map Context.token

/-- A copy of a request in the context of a round trip. Nothing is said of its body. -/
structure IsCopy (copy : Request) (name : String) (client : Request) (context : Context) : Prop where
  method : copy.method = client.method
  uri : copy.uri = client.uri
  headers : copy.headers = client.headers
  context : ∃ own, copy.context = some own ∧ own.IsRoundTrip name context

/-- Copies of a request for some names, in order. All of them have the captured body; without one
the first copy has the body of the request, and the others have none. -/
structure Shares (client : Request) (context : Context) (names : List String)
    (copies : List Request) : Prop where
  each : List.Forall₂ (fun name copy => copy.IsCopy name client context) names copies
  captured : ∀ bytes, context.bufferedBody = some bytes →
    ∀ copy ∈ copies, copy.body = .ofBytes bytes
  streamed : context.bufferedBody = none → ∀ first rest, copies = first :: rest →
    first.body = client.body ∧ ∀ copy ∈ rest, copy.body = .empty
  apart : (copies.map token?).Pairwise fun left right =>
    ∀ own ∈ left, ∀ other ∈ right, own.Apart other

end Request

namespace ClientRequest

variable {client : ClientRequest} {context : Context} {freshId : String} {names : List String}

section

variable (attached : client.request.context = some context)

include attached

theorem nextContext_eq (name freshId : String) :
    client.nextContext name freshId = context.child (some name) client.issued := by
  rw [nextContext, attached, Option.getD_some]

theorem requestsFor_isCopy (freshId : String) (names : List String) :
    List.Forall₂ (fun name copy => copy.IsCopy name client.request context) names
      (client.requestsFor freshId names).1 := by
  induction names generalizing client with
  | nil => exact .nil
  | cons name rest induction =>
      apply List.Forall₂.cons
      · refine ⟨rfl, rfl, rfl, _, rfl, ?_⟩
        rw [nextContext_eq attached]
        exact context.child_isRoundTrip name client.issued
      · exact @induction (client.requestFor name freshId).2 attached

/-- The copies get the labels that have not been given away yet. -/
theorem tokens_requestsFor (freshId : String) (names : List String) :
    (client.requestsFor freshId names).1.map Request.token? =
      (List.range' client.issued names.length).map fun label =>
        some (context.token.child label) := by
  induction names generalizing client with
  | nil => rfl
  | cons name rest induction =>
      have first : (client.requestFor name freshId).1.token? =
          some (context.token.child client.issued) := by
        have own := nextContext_eq attached name freshId
        simp [requestFor, Request.token?, own, Context.child]
      have later := @induction (client.requestFor name freshId).2 attached
      rw [requestsFor, List.map_cons, first, later, List.length_cons, List.range'_succ,
        List.map_cons]
      rfl

end

theorem body_of_captured {bytes : Bytes} (captured : client.buffered = some bytes) :
    ∀ copy ∈ (client.requestsFor freshId names).1, copy.body = .ofBytes bytes := by
  induction names generalizing client with
  | nil => simp [requestsFor]
  | cons name rest induction =>
      have later := @induction (client.requestFor name freshId).2 captured
      rw [requestsFor, List.forall_mem_cons]
      refine ⟨?_, later⟩
      simp only [requestFor, nextBody, captured]

theorem body_of_taken (uncaptured : client.buffered = none) (taken : client.stream = none) :
    ∀ copy ∈ (client.requestsFor freshId names).1, copy.body = .empty := by
  induction names generalizing client with
  | nil => simp [requestsFor]
  | cons name rest induction =>
      have left : (client.requestFor name freshId).2.stream = none := by
        simp [requestFor, uncaptured]
      have later := @induction (client.requestFor name freshId).2 uncaptured left
      rw [requestsFor, List.forall_mem_cons]
      refine ⟨?_, later⟩
      simp only [requestFor, nextBody, uncaptured, taken, Option.getD_none]

theorem shares_requestsFor {request : Request} (attached : request.context = some context)
    (freshId : String) (names : List String) :
    request.Shares context names ((ofRequest request).requestsFor freshId names).1 := by
  have buffered : (ofRequest request).buffered = context.bufferedBody := by
    simp [ClientRequest.buffered, ofRequest, attached]
  refine ⟨@requestsFor_isCopy (ofRequest request) _ attached freshId names, ?_, ?_, ?_⟩
  · exact fun bytes captured => body_of_captured (buffered.trans captured)
  · intro uncaptured first rest copied
    have unbuffered := buffered.trans uncaptured
    cases names with
    | nil => cases copied
    | cons name others =>
        obtain ⟨rfl, rfl⟩ := List.cons.inj copied
        constructor
        · simp only [requestFor, nextBody, unbuffered]
          rfl
        · apply body_of_taken
          · exact unbuffered
          · simp [requestFor, unbuffered]
  · rw [@tokens_requestsFor (ofRequest request) _ attached, List.pairwise_map]
    apply List.Pairwise.imp _ List.nodup_range'
    rintro left right different _ ⟨⟩ _ ⟨⟩
    exact context.token.apart_siblings different

end ClientRequest

namespace Endpoint

variable {request : Request} {before : Context}

/-- A context that is served under some token: capturing a body leaves it its id, its token and its
log. -/
structure Serves (after before : Context) : Prop where
  requestId : after.requestId = before.requestId
  token : after.token = before.token
  log : after.log = before.log

theorem captureBody_serves (endpoint : Endpoint) (freshId : String)
    (attached : request.context = some before) :
    ∃ after, (endpoint.captureBody freshId request).1.context = some after ∧
      Serves after before := by
  by_cases captures : endpoint.Captures request
  · rw [captureBody_eq freshId attached captures]
    split
    · exact ⟨before, attached, rfl, rfl, rfl⟩
    · exact ⟨_, rfl, rfl, rfl, rfl⟩
  · rw [captureBody_of_not attached captures]
    exact ⟨before, attached, rfl, rfl, rfl⟩

theorem framed_context : Proxy.Framed fun earlier later =>
    ∀ context, earlier.context = some context → later.context = some context where
  refl _ _ attached := attached
  trans first second context attached := second context (first context attached)
  headers _ _ _ attached := attached
  attached request freshId context attached := by
    rw [Request.withContext_of_isSome (by simp [attached]) freshId]
    exact attached

/-- The producers work on a request in a context, whose token is the one the request is served
under. -/
theorem admitted_serves (endpoint : Endpoint) (setting : Producer.Setting)
    (state : Policy.Logged) :
    ∃ context, (endpoint.admitted setting state).request.context = some context ∧
      Serves context { state.request.contextOr setting.freshId with
        token := (state.request.contextOr setting.freshId).token.child servingLabel } := by
  have attached : (underOwnToken setting.freshId state.request).context = some _ := rfl
  obtain ⟨context, captured, serves⟩ := captureBody_serves endpoint setting.freshId attached
  refine ⟨context, ?_, serves⟩
  exact framed_context.applyToRequest endpoint.options.policy setting.environment setting.freshId
    { state with request := _ } context captured

end Endpoint

/-- Producers share the body of a request, whatever their names are and in whatever order they ask
for their copies. All of them get a captured body, and the first alone gets a streamed one. The
copies differ from the request in nothing else but their contexts, which are round trips of the
client's, each under a token of its own. The requests inside an endpoint have such a context, the
producers are started on copies of them, and the end of serving cancels every copy, but not the
client that the request came from. -/
theorem ClientRequest.shares_its_body :
    (∀ (request : Request) (context : Context), request.context = some context →
      ∀ freshId names,
        request.Shares context names ((ofRequest request).requestsFor freshId names).1) ∧
    ∀ (endpoint : Endpoint) (setting : Producer.Setting) (state : Policy.Logged),
      let admitted := endpoint.admitted setting state
      let started := endpoint.start setting admitted
      let ended := Endpoint.cancelledAtEnd setting.freshId state.request
      admitted.request.context.isSome = true ∧
      started.proxies ++ started.requests =
        (Producer.startAll setting admitted.log (endpoint.producers.zip
          ((ofRequest admitted.request).requestsFor setting.freshId
            (endpoint.producers.map Producer.name)).1)).2 ∧
      (∀ freshId names, ∀ copy ∈ ((ofRequest admitted.request).requestsFor freshId names).1,
        ∃ token, copy.token? = some token ∧ token.isCancelled ended = true) ∧
      ∀ client, state.request.context = some client → client.token.isCancelled ended = false := by
  refine ⟨fun _ _ => shares_requestsFor, ?_⟩
  intro endpoint setting state admitted started ended
  obtain ⟨context, attached, serves⟩ := Endpoint.admitted_serves endpoint setting state
  have cancelled : context.token.isCancelled ended = true := by
    rw [serves.token]
    exact Token.isCancelled_iff.mpr ⟨_, List.mem_singleton_self _, List.suffix_refl _⟩
  refine ⟨by simp [admitted, attached], ?_, ?_, ?_⟩
  · exact congrArg Prod.snd (Endpoint.start_eq_startAll endpoint setting admitted)
  · intro freshId names copy member
    have named := List.mem_map_of_mem (f := Request.token?) member
    rw [@tokens_requestsFor (ofRequest admitted.request) _ attached] at named
    obtain ⟨label, _, found⟩ := List.mem_map.mp named
    exact ⟨_, found.symm, Token.isCancelled_child label cancelled⟩
  · intro client found
    have guarded : ended = [client.token.child Endpoint.servingLabel] := by
      simp [ended, Endpoint.cancelledAtEnd, Endpoint.underOwnToken, Request.withContext,
        Request.mapContext, Request.contextOr, found]
    simp [Token.isCancelled, guarded, Token.not_isBelow_child]

def dictated : Request where
  method := .post
  uri := .root
  headers := .empty
  body := ⟨[[1, 2], [3]], some (.bodyRead "connection reset")⟩
  context := some (.new "r1")

/-- The first copy has the chunks as they come, with the failure behind them. -/
theorem ClientRequest.shares_its_body_dictated :
    ∃ first second, ((ofRequest dictated).requestsFor "r2" ["app", "audit"]).1 = [first, second] ∧
      first.body = dictated.body ∧ second.body = .empty := by
  have shares := shares_its_body.1 dictated (.new "r1") rfl "r2" ["app", "audit"]
  obtain ⟨whole, rest⟩ := shares.streamed rfl _ _ rfl
  exact ⟨_, _, rfl, whole, rest _ (List.mem_singleton_self _)⟩

end Gateway
