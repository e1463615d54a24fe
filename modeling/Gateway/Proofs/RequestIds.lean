import Gateway.Proofs.Expressions
import Gateway.Proofs.Substitution
import Gateway.Proofs.Utf8

/-!
One request id from end to end. The id that a request gets at the edge is the one that every backend
is told, that every template names and that the answer carries, whatever policies do to the header
that it came in.
-/

namespace Gateway

namespace HeaderValue

theorem fits_of_text {value : HeaderValue} {text : String} (shown : value.text? = some text) :
    Fits text := by
  unfold text? at shown
  split at shown
  · rename_i visible
    rw [← Option.some.inj shown, fits_iff_chars]
    intro c member
    rw [String.toList_ofList, List.mem_map] at member
    obtain ⟨byte, listed, rfl⟩ := member
    have here := List.all_eq_true.mp visible byte listed
    simp only [isVisibleByte, Bool.or_eq_true, Bool.and_eq_true, decide_eq_true_eq] at here
    rw [Utf8.toNat_ofNat_ascii (by omega)]
    omega
  · contradiction

end HeaderValue

namespace Request

variable {request : Request} {freshId : String}

theorem contextOr_inbound (inbound : request.context = none) (freshId : String) :
    (request.contextOr freshId).requestId = request.suppliedId.getD freshId := by
  simp only [contextOr, inbound, Option.getD_none, Context.new]

theorem suppliedId_fits {id : String} (supplied : request.suppliedId = some id) : Fits id := by
  obtain ⟨value, _, shown⟩ := Option.bind_eq_some_iff.mp supplied
  exact HeaderValue.fits_of_text shown

end Request

/-- Writes an id in the place of a template that is the expression for it. -/
def writeId (inner id template : String) : String :=
  if template = "$\x7b" ++ inner ++ "\x7d" then id else template

theorem Harmless.writeId {inner id : String} (environment : Environment)
    (closed : '\x7d' ∉ inner.toList) (names : Text.trim inner = "request.id")
    (plain : (Template.splitOpening id.toList).2 = none)
    (reads : referencesBody id = referencesBody ("$\x7b" ++ inner ++ "\x7d")) :
    Harmless environment id (writeId inner id) where
  reads template := by
    unfold Gateway.writeId
    split
    · rename_i here
      rw [here, reads]
    · rfl
  ignored scope _ seen template := by
    unfold Gateway.writeId
    split
    · rename_i here
      have rendered : scope.value (Text.trim inner) = .ok id := by
        rw [names, Scope.value_id, seen]
      rw [here, Scope.render_single closed rendered]
      exact Template.render_plain scope.value _ plain
    · rfl

namespace Producer

theorem attachedId_of_sent {setting : Setting} {producer : Producer} {state : Policy.Logged}
    {outbound : Request} {id : String}
    (sent : (producer.start setting state).2.sent = some outbound)
    (attached : state.request.attachedId = some id) : outbound.attachedId = some id := by
  cases producer with
  | proxy name policy =>
      obtain ⟨after, prepared, rfl⟩ := Proxy.prepared_of_sent sent
      have kept := Proxy.prepare_keepsId policy setting.environment setting.freshId state
      rw [prepared] at kept
      exact kept.attached attached
  | side request =>
      simp only [start] at sent
      split at sent
      · contradiction
      · rename_i made prepared
        -- the context is the only part of the client's request that goes along
        obtain ⟨url, _, rest⟩ := bind_eq_ok.mp prepared
        obtain ⟨uri, _, rest⟩ := bind_eq_ok.mp rest
        obtain ⟨body, _, rest⟩ := bind_eq_ok.mp rest
        obtain ⟨headers, _, built⟩ := bind_eq_ok.mp rest
        rw [← Option.some.inj sent, ← Except.ok.inj built]
        exact attached
  | inner name mustBuffer work => contradiction

end Producer

namespace Endpoint

variable {endpoint : Endpoint} {setting : Producer.Setting} {state : Policy.Logged} {id : String}

def taken (endpoint : Endpoint) (setting : Producer.Setting) (state : Policy.Logged) :
    Request × Option GatewayError :=
  endpoint.captureBody setting.freshId (underOwnToken setting.freshId state.request)

theorem attachedId_taken (attached : state.request.attachedId = some id) :
    (endpoint.taken setting state).1.attachedId = some id :=
  ((underOwnToken_sameId setting.freshId state.request).trans
    (captureBody_sameId endpoint setting.freshId _)).attached attached

theorem attachedId_of_sent {State : Type} {cancelAt : Option Nat} {write : Writer State}
    {target : State} {outbound : Request}
    (sent : outbound ∈ (endpoint.serve setting cancelAt write target state).2.sent)
    (attached : state.request.attachedId = some id) : outbound.attachedId = some id := by
  by_cases accepted : endpoint.Accepts setting state
  · rw [(trace_serve cancelAt write target accepted).2, calls, List.filterMap_map,
      List.mem_filterMap] at sent
    obtain ⟨work, listed, sends⟩ := sent
    obtain ⟨producer, copy, log, paired, rfl⟩ := Producer.mem_startAll listed
    have admitted : (endpoint.admitted setting state).request.attachedId = some id :=
      (Proxy.applyToRequest_follows ..).sameId.attached (attachedId_taken attached)
    have copied := ClientRequest.attachedId_requestsFor admitted _ _ copy (List.of_mem_zip paired).2
    exact Producer.attachedId_of_sent sends copied
  · rw [sent_of_refused accepted] at sent
    contradiction

theorem handle_trace (endpoint : Endpoint) (setting : Producer.Setting) (cancelAt : Option Nat)
    (state : Policy.Logged) : (endpoint.handle setting cancelAt state).2 =
      (endpoint.serve setting cancelAt ResponseSlot.write none state).2 := by
  unfold handle
  split
  all_goals
    rename_i served
    rw [served]

theorem respond_of_taken {cancelAt : Option Nat} {left : Request} {error : GatewayError}
    (refused : endpoint.taken setting state = (left, some error)) :
    (endpoint.respond setting cancelAt state).1 =
      (endpoint.refuse setting.environment setting.freshId { state with request := left }
        error).outcome := by
  rw [taken] at refused
  rw [respond, refused]

end Endpoint

theorem ErrorTable.outcome_serveError (table : ErrorTable) (environment : Environment)
    (freshId : String) (state : Policy.Logged) (error : GatewayError) :
    (table.serveError environment freshId state error).outcome =
      match table.select error with
      | none => .ok (table.page.serve (store freshId error state.request) error)
      | some handler => handler.respond environment (recordFields handler environment freshId
          { state with request := store freshId error state.request }).request := by
  rw [serveError_eq]
  cases table.select error <;> rfl

section

variable {request : Request} {id : String} {value : HeaderValue}

/-- An error page carries the id, or no id at all where the page cannot be sent with its headers. -/
theorem ErrorPage.getAll_requestId (page : ErrorPage) (attached : request.attachedId = some id)
    (read : HeaderValue.parse? id = some value) (error : GatewayError) :
    (page.serve request error).headers.getAll HeaderName.requestId = [] ∨
      (page.serve request error).headers.getAll HeaderName.requestId = [value] := by
  obtain ⟨context, found, rfl⟩ := Request.attachedId_eq_some.mp attached
  simp only [serve, found, read]
  split
  · rename_i fits
    right
    rw [HeaderMap.getAll_append_self, HeaderMap.getAll_append_of_ne (by decide),
      Option.some.inj fits]
    rfl
  · exact .inl rfl

theorem AllowedMethods.getAll_requestId (page : ErrorPage) (methods : List Method)
    (request : Request) :
    (refuse page methods request).headers.getAll HeaderName.requestId =
      (page.serve request (.methodNotAllowed request.method.text)).headers.getAll
        HeaderName.requestId := by
  obtain ⟨allow, _, refused⟩ := refuse_eq page methods request
  rw [refused, HeaderMap.getAll_insert, if_neg (by decide)]

end

inductive Source where
  | page
  /-- A backend or a configured answer, with the policies behind it. -/
  | selected
  deriving DecidableEq, Repr

namespace Route

open Endpoint

variable {route : Route} {setting : Producer.Setting} {state : Policy.Logged}

/-- The answers of a route. The error page answers a method that is not on the list, and a body that
is refused where no handler has been set for its error; what is selected goes through the policy of
the route, the answer of an error handler through its own. -/
inductive Answers (route : Route) (setting : Producer.Setting) (state : Policy.Logged) :
    Source → Response → Prop where
  | otherMethod (refused : state.request.method ∉ route.allowed) :
      Answers route setting state .page
        (AllowedMethods.refuse route.page route.advertised state.request)
  | refusedBody (allowed : state.request.method ∈ route.allowed) {left : Request}
      {error : GatewayError} (refused : route.endpoint.taken setting state = (left, some error))
      (bare : route.endpoint.options.errorTable = none) :
      Answers route setting state .page (route.endpoint.options.errorPage.serve left error)
  | unhandled (allowed : state.request.method ∈ route.allowed) {left : Request}
      {error : GatewayError} (refused : route.endpoint.taken setting state = (left, some error))
      {table : ErrorTable} (set : route.endpoint.options.errorTable = some table)
      (missing : table.select error = none) :
      Answers route setting state .page
        (table.page.serve (ErrorTable.store setting.freshId error left) error)
  | handled (allowed : state.request.method ∈ route.allowed) {left : Request}
      {error : GatewayError} (refused : route.endpoint.taken setting state = (left, some error))
      {table : ErrorTable} (set : route.endpoint.options.errorTable = some table)
      {handler : ErrorHandler} (chosen : table.select error = some handler) {answer : Response}
      (made : handler.respond setting.environment
        (ErrorTable.recordFields handler setting.environment setting.freshId
          ⟨ErrorTable.store setting.freshId error left, state.log⟩).request = .ok answer) :
      Answers route setting state .selected answer
  | served (allowed : state.request.method ∈ route.allowed)
      (accepted : route.endpoint.Accepts setting state) {answer : Response}
      (selected : route.endpoint.answer setting none state = .ok answer) :
      Answers route setting state .selected (route.endpoint.policed setting state answer)

theorem answers_iff {answer : Response} :
    (route.serve setting state).1 = .ok answer ↔
      ∃ source, route.Answers setting state source answer := by
  constructor
  · intro served
    unfold serve at served
    split at served
    · rename_i allowed
      rw [handle_eq_respond] at served
      -- a refused body is answered before anything is started
      cases refused : (route.endpoint.taken setting state).2 with
      | none =>
          have accepted : route.endpoint.Accepts setting state := refused
          rw [respond_eq accepted] at served
          obtain ⟨selected, answered, rfl⟩ := map_eq_ok.mp served
          exact ⟨_, .served allowed accepted answered⟩
      | some error =>
          have taken : route.endpoint.taken setting state = (_, some error) := Prod.ext rfl refused
          rw [respond_of_taken taken, refuse] at served
          cases set : route.endpoint.options.errorTable with
          | none =>
              simp only [set] at served
              rw [← Except.ok.inj served]
              exact ⟨_, .refusedBody allowed taken set⟩
          | some table =>
              simp only [set, ErrorTable.outcome_serveError] at served
              split at served
              · rename_i missing
                rw [← Except.ok.inj served]
                exact ⟨_, .unhandled allowed taken set missing⟩
              · rename_i chosen
                exact ⟨_, .handled allowed taken set chosen served⟩
    · rename_i refused
      rw [← Except.ok.inj served]
      exact ⟨_, .otherMethod refused⟩
  · rintro ⟨source, answered⟩
    unfold serve
    cases answered with
    | otherMethod refused => rw [if_neg refused]
    | refusedBody allowed refused bare =>
        rw [if_pos allowed, handle_eq_respond, respond_of_taken refused, refuse, bare]
    | unhandled allowed refused set missing =>
        rw [if_pos allowed, handle_eq_respond, respond_of_taken refused, refuse, set]
        simp only [ErrorTable.outcome_serveError, missing]
    | handled allowed refused set chosen made =>
        rw [if_pos allowed, handle_eq_respond, respond_of_taken refused, refuse, set]
        simp only [ErrorTable.outcome_serveError, chosen, made]
    | served allowed accepted selected =>
        rw [if_pos allowed, handle_eq_respond, respond_eq accepted, selected]
        rfl

theorem Answers.getAll_requestId {id : String} {value : HeaderValue} {answer : Response}
    (answered : route.Answers setting state .page answer)
    (attached : state.request.attachedId = some id)
    (read : HeaderValue.parse? id = some value) :
    answer.headers.getAll HeaderName.requestId = [] ∨
      answer.headers.getAll HeaderName.requestId = [value] := by
  have taken {left : Request} {error : GatewayError}
      (refused : route.endpoint.taken setting state = (left, some error)) :
      left.attachedId = some id := by
    have kept := @attachedId_taken route.endpoint setting state id attached
    rw [refused] at kept
    exact kept
  cases answered with
  | otherMethod =>
      rw [AllowedMethods.getAll_requestId]
      exact route.page.getAll_requestId attached read _
  | refusedBody _ refused => exact ErrorPage.getAll_requestId _ (taken refused) read _
  | unhandled _ refused =>
      have stored (error : GatewayError) := ErrorTable.store_sameId setting.freshId error
      exact ErrorPage.getAll_requestId _ ((stored _ _).attached (taken refused)) read _

theorem attachedId_of_sent {id : String} {outbound : Request}
    (sent : outbound ∈ (route.serve setting state).2.sent)
    (attached : state.request.attachedId = some id) : outbound.attachedId = some id := by
  unfold serve at sent
  split at sent
  · rw [handle_trace] at sent
    exact Endpoint.attachedId_of_sent sent attached
  · contradiction

end Route

namespace Service

variable {id : String} {value : HeaderValue} {headers : HeaderMap}

theorem getAll_addRequestId (read : HeaderValue.parse? id = some value) (name : HeaderName) :
    (addRequestId id headers).getAll name =
      if name = HeaderName.requestId ∧ headers.getAll HeaderName.requestId = [] then [value]
      else headers.getAll name := by
  have absent : headers.contains HeaderName.requestId = false ↔
      headers.getAll HeaderName.requestId = [] := by
    rw [HeaderMap.getAll_eq_nil_iff, HeaderMap.contains, List.contains_eq_mem, decide_eq_false_iff_not]
  simp only [addRequestId, read]
  split
  · rename_i present
    rw [if_neg]
    rintro ⟨_, none⟩
    rw [absent.mpr none] at present
    contradiction
  · rename_i missing
    have none := absent.mp (Bool.eq_false_iff.mpr missing)
    simp only [HeaderMap.getAll_insert, none, and_true, @eq_comm _ name]

/-- One request id from end to end. It is the one that the client sent or else the one that was made
up, and nothing behind the edge would make up another. Every request to a backend has it in its
context. Every template is rendered under it: with templates in their place that cannot be told from
them under this id, the route does the same. So the expression for the id renders to it wherever it
stands, and a route with the id written there does the same too. An answer of the error page carries
the id, and so does every other answer that has no such header of its own. -/
theorem one_request_id (route : Route) (setting : Producer.Setting) (state : Policy.Logged) :
    let id := (state.request.contextOr setting.freshId).requestId
    let attached : Policy.Logged :=
      { state with request := state.request.withContext setting.freshId }
    let served := serve route setting state
    (state.request.context = none → id = state.request.suppliedId.getD setting.freshId ∧
      (Fits setting.freshId → Fits id)) ∧
    (∀ outbound ∈ served.2.sent,
      ∃ context, outbound.context = some context ∧ context.requestId = id) ∧
    (∀ change, Harmless setting.environment id change →
      serve (route.mapTemplates change) setting state = served ∧
      ∀ other, (route.mapTemplates change).serve { setting with freshId := other } attached =
        route.serve setting attached) ∧
    (∀ inner, '\x7d' ∉ inner.toList → Text.trim inner = "request.id" →
      (∀ scope : Scope, scope.request.requestId = id →
        scope.render ("$\x7b" ++ inner ++ "\x7d") = .ok id) ∧
      ((Template.splitOpening id.toList).2 = none →
        referencesBody id = referencesBody ("$\x7b" ++ inner ++ "\x7d") →
        serve (route.mapTemplates (writeId inner id)) setting state = served)) ∧
    (∀ final, served.1 = .ok final → ∃ source answer, route.Answers setting attached source answer) ∧
    ∀ source answer, route.Answers setting attached source answer → ∀ value,
      HeaderValue.parse? id = some value →
      ∃ final, served.1 = .ok final ∧ final.status = answer.status ∧ final.body = answer.body ∧
        ∀ name, final.headers.getAll name =
          if name = HeaderName.requestId ∧
              (source = .page ∨ answer.headers.getAll HeaderName.requestId = []) then [value]
          else answer.headers.getAll name := by
  intro id attached served
  have identified : attached.request.attachedId = some id := rfl
  have edge (route : Route) : serve route setting state =
      ((route.serve setting attached).1.map fun answer =>
        { answer with headers := addRequestId id answer.headers },
        (route.serve setting attached).2) := rfl
  have same (change : String → String) (harmless : Harmless setting.environment id change)
      (other : String) : (route.mapTemplates change).serve { setting with freshId := other } attached =
        route.serve setting attached :=
    route.serve_mapTemplates other harmless identified
  have unchanged (change : String → String) (harmless : Harmless setting.environment id change) :
      serve (route.mapTemplates change) setting state = served := by
    have here : (route.mapTemplates change).serve setting attached = route.serve setting attached :=
      same change harmless setting.freshId
    rw [edge, here]
    rfl
  refine ⟨?_, ?_, fun change harmless => ⟨unchanged change harmless, same change harmless⟩, ?_, ?_, ?_⟩
  · intro inbound
    have supply : id = state.request.suppliedId.getD setting.freshId :=
      Request.contextOr_inbound inbound _
    refine ⟨supply, fun madeUp => ?_⟩
    rw [supply]
    cases supplied : state.request.suppliedId with
    | none => exact madeUp
    | some text => exact Request.suppliedId_fits supplied
  · intro outbound sent
    have calls : outbound ∈ (route.serve setting attached).2.sent := sent
    exact Request.attachedId_eq_some.mp (Route.attachedId_of_sent calls identified)
  · intro inner closed names
    constructor
    · intro scope seen
      apply Scope.render_single closed
      rw [names, Scope.value_id, seen]
    · intro plain reads
      exact unchanged _ (.writeId setting.environment closed names plain reads)
  · intro final done
    obtain ⟨answer, answered, _⟩ := map_eq_ok.mp (congrArg Prod.fst (edge route) ▸ done)
    obtain ⟨source, answered⟩ := Route.answers_iff.mp answered
    exact ⟨source, answer, answered⟩
  · intro source answer answered value read
    have done := Route.answers_iff.mpr ⟨source, answered⟩
    refine ⟨{ answer with headers := addRequestId id answer.headers }, ?_, rfl, rfl, ?_⟩
    · rw [show served = _ from edge route, done]
      rfl
    · intro name
      rw [getAll_addRequestId read]
      cases source with
      | selected => simp only [reduceCtorEq, false_or]
      | page =>
          rcases answered.getAll_requestId identified read with none | own
          · simp only [none, or_true, and_true]
          · by_cases here : name = HeaderName.requestId
            · simp [here, own]
            · simp [here]

def relabelling : Route where
  advertised := [.post]
  allowed := [.post]
  page := .html
  endpoint :=
    { options := { policy := { request := { set := [("x-request-id", "hidden")] } } }
      proxies := [.proxy "app"
        { request := { set := [("x-tag", "$\x7brequest.id\x7d")], remove := ["x-request-id"] } }]
      requests := [] }

def labelled : Request :=
  { Endpoint.parcel with headers := HeaderMap.empty.append .requestId ⟨Utf8.encode "r-7", by decide⟩ }

def echoing : Producer.Setting := ⟨Endpoint.echo, [], "made-up"⟩

theorem one_request_id_relabelled :
    Harmless echoing.environment "r-7" (writeId "request.id" "r-7") ∧
    serve (relabelling.mapTemplates (writeId "request.id" "r-7")) echoing ⟨labelled, []⟩ =
      serve relabelling echoing ⟨labelled, []⟩ ∧
    (serve relabelling echoing ⟨labelled, []⟩).2.sent.length = 1 ∧
    (∀ outbound ∈ (serve relabelling echoing ⟨labelled, []⟩).2.sent,
      ∃ context, outbound.context = some context ∧ context.requestId = "r-7") ∧
    ∃ final, (serve relabelling echoing ⟨labelled, []⟩).1 = .ok final ∧
      final.headers.getAll HeaderName.requestId = [⟨Utf8.encode "r-7", by decide⟩] := by
  have harmless : Harmless echoing.environment "r-7" (writeId "request.id" "r-7") :=
    .writeId _ (by decide) (by decide) (by decide +kernel) (by decide)
  have id : (labelled.contextOr echoing.freshId).requestId = "r-7" := by decide +kernel
  have one := one_request_id relabelling echoing ⟨labelled, []⟩
  dsimp only at one
  rw [id] at one
  obtain ⟨_, told, same, _, _, answers⟩ := one
  refine ⟨harmless, (same _ harmless).1, by decide +kernel, told, ?_⟩
  let came : Policy.Logged := ⟨labelled.withContext echoing.freshId, []⟩
  have accepted : relabelling.endpoint.Accepts echoing came := rfl
  have selected : relabelling.endpoint.answer echoing none came =
      .ok ⟨.ok, .empty, .ofBytes [1, 2, 3]⟩ := by decide +kernel
  have answered := Route.Answers.served (by decide) accepted selected
  have read : HeaderValue.parse? "r-7" = some ⟨Utf8.encode "r-7", by decide⟩ := by decide +kernel
  obtain ⟨final, done, _, _, headers⟩ := answers _ _ answered _ read
  refine ⟨final, done, ?_⟩
  rw [headers, if_pos ⟨rfl, .inr (by decide +kernel)⟩]

end Service

end Gateway
