import Gateway.Proofs.Injection
import Gateway.Proofs.Stages

/-!
Putting templates for each other. A change of templates that no scope with a certain request id can
tell from the old ones may be made all over a route: requests with that id are served as before, with
the same answer, the same calls and the same log. Nor does it count which id would be made up for a
request without any, as none is made up once there is one.
-/

namespace Gateway

def Scope.Ignores (scope : Scope) (change : String → String) : Prop :=
  ∀ template, scope.render (change template) = scope.render template

/-- A change of templates that cannot be noticed under an environment and a request id. -/
structure Harmless (environment : Environment) (id : String) (change : String → String) :
    Prop where
  reads : ∀ template, referencesBody (change template) = referencesBody template
  ignored : ∀ scope : Scope, scope.environment = environment → scope.request.requestId = id →
    scope.Ignores change

namespace Request

variable {request before after : Request} {id freshId : String}

theorem attachedId_eq_some : request.attachedId = some id ↔
    ∃ context, request.context = some context ∧ context.requestId = id :=
  Option.map_eq_some_iff

theorem SameId.attached (same : SameId before after) (attached : before.attachedId = some id) :
    after.attachedId = some id := by
  obtain ⟨context, found, _⟩ := attachedId_eq_some.mp attached
  rw [same (by rw [found]; rfl), attached]

theorem withContext_of_attached (attached : request.attachedId = some id) (freshId : String) :
    request.withContext freshId = request := by
  obtain ⟨context, found, _⟩ := attachedId_eq_some.mp attached
  exact withContext_of_isSome (by rw [found]; rfl) freshId

theorem view_requestId (attached : request.attachedId = some id) :
    (RequestView.of request).requestId = id := by
  obtain ⟨context, found, same⟩ := attachedId_eq_some.mp attached
  simp only [RequestView.of, found, same]

end Request

namespace Harmless

variable {environment : Environment} {id : String} {change : String → String}

theorem any_map (harmless : Harmless environment id change) (templates : List String) :
    (templates.map change).any referencesBody = templates.any referencesBody := by
  rw [List.any_map]
  exact congrArg (templates.any ·) (funext harmless.reads)

theorem any_option (harmless : Harmless environment id change) (template : Option String) :
    (template.map change).any referencesBody = template.any referencesBody := by
  cases template with
  | none => rfl
  | some template => exact harmless.reads template

theorem of_attached (harmless : Harmless environment id change) {request : Request}
    (attached : request.attachedId = some id) (response : Option ResponseView) :
    Scope.Ignores ⟨environment, RequestView.of request, response⟩ change :=
  harmless.ignored _ rfl (Request.view_requestId attached)

end Harmless

def mapFields (change : String → String) (fields : List (String × String)) :
    List (String × String) :=
  fields.map fun field => (field.1, change field.2)

theorem templates_mapFields (change : String → String) (fields : List (String × String)) :
    (mapFields change fields).map Prod.snd = (fields.map Prod.snd).map change := by
  simp [mapFields]

section

variable {scope : Scope} {change : String → String}

theorem resolve_ignored (ignores : scope.Ignores change) (name template : String) :
    HeaderChange.resolve scope name (change template) =
      HeaderChange.resolve scope name template := by
  unfold HeaderChange.resolve
  rw [ignores]

theorem renderHeaders_ignored (ignores : scope.Ignores change) (fields : List (String × String))
    (headers : HeaderMap) :
    renderHeaders scope headers (mapFields change fields) = renderHeaders scope headers fields := by
  induction fields generalizing headers with
  | nil => rfl
  | cons field rest induction =>
      simp only [mapFields, List.map_cons, renderHeaders, resolve_ignored ignores] at induction ⊢
      exact congrArg _ (funext fun resolved => induction _)

theorem Policy.recordFields_ignored (ignores : scope.Ignores change)
    (fields : List (String × String)) (log : LogFields) :
    recordFields scope log (mapFields change fields) = recordFields scope log fields := by
  induction fields generalizing log with
  | nil => rfl
  | cons field rest induction =>
      simp only [mapFields, List.map_cons, recordFields, ignores field.2] at induction ⊢
      split
      · exact induction _
      · rfl

namespace HeaderChange

def mapTemplates (change : String → String) : HeaderChange → HeaderChange
  | remove name => .remove name
  | set name template => .set name (change template)
  | add name template => .add name (change template)

theorem applyAll_ignored (ignores : scope.Ignores change) (changes : List HeaderChange)
    (headers : HeaderMap) :
    applyAll scope headers (changes.map (mapTemplates change)) =
      applyAll scope headers changes := by
  induction changes generalizing headers with
  | nil => rfl
  | cons first rest induction =>
      have same : (first.mapTemplates change).apply scope headers = first.apply scope headers := by
        cases first with
        | remove name => rfl
        | set name template => simp only [mapTemplates, apply, resolve_ignored ignores]
        | add name template => simp only [mapTemplates, apply, resolve_ignored ignores]
      simp only [List.map_cons, applyAll, same]
      split
      · exact induction _
      · rfl

end HeaderChange

namespace HeaderPolicy

def mapTemplates (change : String → String) (policy : HeaderPolicy) : HeaderPolicy :=
  { policy with set := mapFields change policy.set, add := mapFields change policy.add }

theorem apply_ignored (ignores : scope.Ignores change) (policy : HeaderPolicy)
    (headers : HeaderMap) :
    (policy.mapTemplates change).apply scope headers = policy.apply scope headers := by
  have changes : (policy.mapTemplates change).changes =
      policy.changes.map (HeaderChange.mapTemplates change) := by
    simp only [HeaderPolicy.changes, mapTemplates, mapFields, List.map_append, List.map_map]
    rfl
  rw [apply, apply, changes, HeaderChange.applyAll_ignored ignores]

theorem templates_mapTemplates (change : String → String) (policy : HeaderPolicy) :
    (policy.mapTemplates change).templates = policy.templates.map change := by
  simp [templates, mapTemplates, templates_mapFields]

end HeaderPolicy

end

def WebsocketsBlock.mapTemplates (change : String → String) (block : WebsocketsBlock) :
    WebsocketsBlock :=
  { block with request := block.request.mapTemplates change }

def Policy.mapTemplates (change : String → String) (policy : Policy) : Policy :=
  { policy with
    request := policy.request.mapTemplates change
    response := policy.response.mapTemplates change
    url := policy.url.map change
    websockets := policy.websockets.map (WebsocketsBlock.mapTemplates change)
    customLogFields := mapFields change policy.customLogFields }

def Redirect.mapTemplates (change : String → String) (redirect : Redirect) : Redirect :=
  { redirect with url := change redirect.url, headers := mapFields change redirect.headers }

def StaticResponse.mapTemplates (change : String → String) (answer : StaticResponse) :
    StaticResponse :=
  { answer with headers := mapFields change answer.headers, body := answer.body.map change }

def ErrorHandler.mapTemplates (change : String → String) (handler : ErrorHandler) : ErrorHandler :=
  ⟨handler.answer.mapTemplates change, handler.policy.map (Policy.mapTemplates change)⟩

def ErrorTable.mapTemplates (change : String → String) (table : ErrorTable) : ErrorTable :=
  { table with handlers := table.handlers.map fun entry => (entry.1, entry.2.mapTemplates change) }

def SideRequest.mapTemplates (change : String → String) (side : SideRequest) : SideRequest :=
  { side with block := { side.block with
      url := change side.block.url
      headers := mapFields change side.block.headers
      body := side.block.body.map change } }

def Producer.mapTemplates (change : String → String) : Producer → Producer
  | proxy name policy => .proxy name (policy.mapTemplates change)
  | side request => .side (request.mapTemplates change)
  | inner name mustBuffer work => .inner name mustBuffer work

def EndpointOptions.mapTemplates (change : String → String) (options : EndpointOptions) :
    EndpointOptions :=
  { options with
    policy := options.policy.mapTemplates change
    errorTable := options.errorTable.map (ErrorTable.mapTemplates change)
    redirect := options.redirect.map (Redirect.mapTemplates change)
    response := options.response.map (StaticResponse.mapTemplates change) }

def Endpoint.mapTemplates (change : String → String) (endpoint : Endpoint) : Endpoint where
  options := endpoint.options.mapTemplates change
  proxies := endpoint.proxies.map (Producer.mapTemplates change)
  requests := endpoint.requests.map (Producer.mapTemplates change)

def Route.mapTemplates (change : String → String) (route : Route) : Route :=
  { route with endpoint := route.endpoint.mapTemplates change }

variable {environment : Environment} {id : String} {change : String → String}

namespace Policy

theorem applyToResponse_ignored (harmless : Harmless environment id change) (policy : Policy)
    {view : RequestView} (seen : view.requestId = id) (response : Response) :
    (policy.mapTemplates change).applyToResponse environment view response =
      policy.applyToResponse environment view response := by
  have same := HeaderPolicy.apply_ignored
    (harmless.ignored ⟨environment, view, some (.of response)⟩ rfl seen) policy.response
      response.headers
  simp only [applyToResponse, mapTemplates, same]

theorem mustBuffer_mapTemplates (harmless : Harmless environment id change) (policy : Policy) :
    (policy.mapTemplates change).mustBuffer = policy.mustBuffer := by
  have url : (policy.url.map change).toList = policy.url.toList.map change := by
    cases policy.url <;> rfl
  have templates : (policy.mapTemplates change).templates = policy.templates.map change := by
    simp [Policy.templates, mapTemplates, HeaderPolicy.templates_mapTemplates, templates_mapFields,
      url, List.flatMap_map, List.map_flatMap, WebsocketsBlock.mapTemplates]
  rw [mustBuffer, templates, harmless.any_map, mustBuffer]

end Policy

namespace Proxy

variable (other freshId : String)

/-- Two stages that do the same to every request with an id. -/
def Alike (id : String) (left right : Stage) : Prop :=
  ∀ state, state.request.attachedId = some id → left state = right state

theorem Alike.andThen {first second others rest : Stage} (one : Alike id first others)
    (two : Alike id second rest) (keeps : KeepsId others) :
    Alike id (andThen first second) (andThen others rest) := by
  intro state attached
  have kept := (keeps state).attached attached
  unfold Proxy.andThen
  rw [one state attached]
  split
  · rename_i done
    rw [done] at kept
    exact two _ kept
  · rfl

theorem recordLogFields_ignored (harmless : Harmless environment id change) (policy : Policy)
    {state : Policy.Logged} (attached : state.request.attachedId = some id) :
    (policy.mapTemplates change).recordLogFields environment other state =
      policy.recordLogFields environment freshId state := by
  have fields := Policy.recordFields_ignored (harmless.of_attached attached none)
    policy.customLogFields
  have absent : (mapFields change policy.customLogFields).isEmpty =
      policy.customLogFields.isEmpty := by simp [mapFields]
  simp only [Policy.recordLogFields, Policy.mapTemplates, Scope.ofRequest, fields, absent,
    Request.withContext_of_attached attached]

theorem changeRequest_ignored (harmless : Harmless environment id change)
    (changes : HeaderPolicy) {request : Request} (attached : request.attachedId = some id) :
    Policy.changeRequest (changes.mapTemplates change) environment request =
      Policy.changeRequest changes environment request := by
  have same := HeaderPolicy.apply_ignored (harmless.of_attached attached none) changes
    request.headers
  simp only [Policy.changeRequest, Scope.ofRequest, same]

theorem applyToRequest_alike (harmless : Harmless environment id change) (policy : Policy) :
    Alike id ((policy.mapTemplates change).applyToRequest environment other)
      (policy.applyToRequest environment freshId) := by
  intro state attached
  have changed := changeRequest_ignored harmless policy.request attached
  have kept : (Policy.changeRequest policy.request environment state.request).1.attachedId =
      some id := attached
  unfold Policy.applyToRequest
  rw [show (policy.mapTemplates change).request = policy.request.mapTemplates change from rfl,
    changed]
  split
  · rfl
  · rename_i done
    rw [done] at kept
    exact recordLogFields_ignored other freshId harmless policy kept

theorem readTimeout_alike (block : WebsocketsBlock) :
    Alike id (readTimeout (block.mapTemplates change) other) (readTimeout block freshId) := by
  intro state attached
  simp only [readTimeout, Request.withContext_of_attached attached]
  rfl

theorem permitUpgrade_alike (harmless : Harmless environment id change)
    (block : WebsocketsBlock) :
    Alike id (permitUpgrade (block.mapTemplates change) environment other)
      (permitUpgrade block environment freshId) := by
  intro state attached
  have changes : Alike id (changeHeaders (block.mapTemplates change) environment)
      (changeHeaders block environment) := by
    intro state attached
    have same := changeRequest_ignored harmless block.request attached
    simp only [changeHeaders, WebsocketsBlock.mapTemplates, same]
  have keeps : KeepsId (changeHeaders block environment) :=
    fun state => (changeRequest_follows block.request environment state.request).sameId
  simp only [permitUpgrade, Request.withContext_of_attached attached]
  split
  · refine changes.andThen (readTimeout_alike other freshId block) keeps _ ?_
    refine (Request.mapContext_sameId state.request ?_).attached attached
    exact fun _ => rfl
  · rfl

theorem applyWebsockets_alike (harmless : Harmless environment id change) (policy : Policy) :
    Alike id (applyWebsockets (policy.mapTemplates change) environment other)
      (applyWebsockets policy environment freshId) := by
  intro state attached
  have count : (policy.mapTemplates change).websockets.length = policy.websockets.length :=
    List.length_map _
  have blocks : (policy.mapTemplates change).websockets =
      policy.websockets.map (WebsocketsBlock.mapTemplates change) := rfl
  unfold applyWebsockets
  rw [count, show (policy.mapTemplates change).backends = policy.backends from rfl, blocks]
  cases policy.websockets with
  | nil => rfl
  | cons block rest =>
      have same := permitUpgrade_alike other freshId harmless block state attached
      simp only [List.map_cons, same]

theorem applyUrl_alike (harmless : Harmless environment id change) (policy : Policy) :
    Alike id (applyUrl (policy.mapTemplates change) environment other)
      (applyUrl policy environment freshId) := by
  intro state attached
  unfold applyUrl
  rw [show (policy.mapTemplates change).backends = policy.backends from rfl,
    show (policy.mapTemplates change).url = policy.url.map change from rfl]
  cases policy.url with
  | none => cases policy.backends <;> rfl
  | some template =>
      have same := harmless.of_attached attached none template
      simp only [Option.map_some, pointToUrl, Scope.ofRequest, same,
        Request.withContext_of_attached attached]

theorem direct_alike : Alike id (direct other) (direct freshId) := by
  intro state attached
  have stripped : Request.attachedId
      { state.request with headers := strip state.request.headers } = some id := attached
  simp only [direct, Request.withContext_of_attached stripped]

theorem prepare_alike (harmless : Harmless environment id change) (policy : Policy) :
    Alike id (prepare (policy.mapTemplates change) environment other)
      (prepare policy environment freshId) := by
  have policed : Leaves (policy.applyToRequest environment freshId) :=
    applyToRequest_follows policy environment freshId
  apply (applyToRequest_alike other freshId harmless policy).andThen _ policed.keepsId
  apply (applyWebsockets_alike other freshId harmless policy).andThen _
    (applyWebsockets_leaves policy environment freshId).keepsId
  exact (applyUrl_alike other freshId harmless policy).andThen (direct_alike other freshId)
    (applyUrl_keepsId policy environment freshId)

end Proxy

section

variable {view : RequestView}

theorem Redirect.toResponse_ignored (harmless : Harmless environment id change)
    (redirect : Redirect) (seen : view.requestId = id) :
    (redirect.mapTemplates change).toResponse environment view =
      redirect.toResponse environment view := by
  have ignores := harmless.ignored (.ofRequest environment view) rfl seen
  simp only [toResponse, mapTemplates, ignores redirect.url, renderHeaders_ignored ignores]
  rfl

theorem StaticResponse.toResponse_ignored (harmless : Harmless environment id change)
    (answer : StaticResponse) (seen : view.requestId = id) :
    (answer.mapTemplates change).toResponse environment view =
      answer.toResponse environment view := by
  have ignores := harmless.ignored (.ofRequest environment view) rfl seen
  rw [toResponse_eq, toResponse_eq]
  simp only [mapTemplates, renderHeaders_ignored ignores]
  cases answer.body with
  | none => rfl
  | some template => simp only [Option.map_some, ignores template]

end

namespace ErrorHandler

variable {request : Request}

theorem respond_ignored (harmless : Harmless environment id change) (handler : ErrorHandler)
    (attached : request.attachedId = some id) :
    (handler.mapTemplates change).respond environment request =
      handler.respond environment request := by
  have seen := Request.view_requestId attached
  simp only [respond, mapTemplates, StaticResponse.toResponse_ignored harmless handler.answer seen]
  cases handler.policy with
  | none => rfl
  | some policy => simp only [Option.map_some, Policy.applyToResponse_ignored harmless policy seen]

end ErrorHandler

theorem SortedMap.get?_map {Value Other : Type} (map : SortedMap Value) (change : Value → Other)
    (key : String) :
    get? (List.map (fun entry => (entry.1, change entry.2)) map) key =
      (get? map key).map change := by
  induction map with
  | nil => rfl
  | cons entry rest induction =>
      by_cases here : entry.1 = key
      · simp [get?, here]
      · simpa [get?, here] using induction

namespace ErrorTable

theorem select_mapTemplates (change : String → String) (table : ErrorTable)
    (error : GatewayError) :
    (table.mapTemplates change).select error =
      (table.select error).map (ErrorHandler.mapTemplates change) := by
  have lookup (kind : String) : SortedMap.get? (table.mapTemplates change).handlers kind =
      (SortedMap.get? table.handlers kind).map (ErrorHandler.mapTemplates change) :=
    SortedMap.get?_map table.handlers _ kind
  unfold select
  induction error.kinds ++ [wildcardKind] with
  | nil => rfl
  | cons kind rest induction =>
      rw [List.findSome?_cons, List.findSome?_cons, lookup]
      cases SortedMap.get? table.handlers kind with
      | none => exact induction
      | some handler => rfl

theorem store_sameId (freshId : String) (error : GatewayError) (request : Request) :
    Request.SameId request (store freshId error request) :=
  (Request.Follows.changeContext request freshId fun _ => rfl).sameId

theorem recordFields_sameId (handler : ErrorHandler) (environment : Environment)
    (freshId : String) (state : Policy.Logged) :
    Request.SameId state.request (recordFields handler environment freshId state).request := by
  unfold recordFields
  split
  · exact (Proxy.recordLogFields_follows ..).sameId
  · exact .refl _

theorem serveError_ignored (other freshId : String) (harmless : Harmless environment id change)
    (table : ErrorTable) {state : Policy.Logged} (attached : state.request.attachedId = some id)
    (error : GatewayError) :
    (table.mapTemplates change).serveError environment other state error =
      table.serveError environment freshId state error := by
  have stored := (store_sameId freshId error state.request).attached attached
  have same : store other error state.request = store freshId error state.request := by
    simp only [store, Request.withContext_of_attached attached]
  unfold serveError
  rw [same]
  generalize store freshId error state.request = request at stored ⊢
  unfold serve
  split
  · rfl
  · rename_i found _
    rw [select_mapTemplates]
    cases table.select found with
    | none => rfl
    | some handler =>
        have recorded : recordFields (handler.mapTemplates change) environment other
            { state with request } =
            recordFields handler environment freshId { state with request } := by
          unfold recordFields ErrorHandler.mapTemplates
          cases handler.policy with
          | none => rfl
          | some policy =>
              exact congrArg Prod.fst
                (Proxy.recordLogFields_ignored other freshId harmless policy stored)
        have left := (recordFields_sameId handler environment freshId
          { state with request }).attached stored
        simp only [Option.map_some, recorded, ErrorHandler.respond_ignored harmless handler left]

end ErrorTable

namespace SideRequest

theorem prepare_ignored (harmless : Harmless environment id change) (side : SideRequest)
    {request : Request} (attached : request.attachedId = some id) :
    (side.mapTemplates change).prepare environment request = side.prepare environment request := by
  have ignores := harmless.of_attached attached none
  have body : renderBody (.ofRequest environment (.of request)) (side.block.body.map change) =
      renderBody (.ofRequest environment (.of request)) side.block.body := by
    cases side.block.body with
    | none => rfl
    | some template => simp only [Option.map_some, renderBody, Scope.ofRequest, ignores template]
  simp only [prepare, mapTemplates, body]
  simp only [Scope.ofRequest, ignores side.block.url, renderHeaders_ignored ignores]

theorem mustBuffer_mapTemplates (harmless : Harmless environment id change) (side : SideRequest) :
    (side.mapTemplates change).mustBuffer = side.mustBuffer := by
  simp only [mustBuffer, mapTemplates, templates_mapFields, harmless.reads, harmless.any_map,
    harmless.any_option]

end SideRequest

namespace Producer

variable {setting : Setting} (other : String)

theorem name_mapTemplates (change : String → String) (producer : Producer) :
    (producer.mapTemplates change).name = producer.name := by
  cases producer <;> rfl

theorem mustBuffer_mapTemplates (harmless : Harmless environment id change)
    (producer : Producer) : (producer.mapTemplates change).mustBuffer = producer.mustBuffer := by
  cases producer with
  | proxy name policy => exact policy.mustBuffer_mapTemplates harmless
  | side request => exact request.mustBuffer_mapTemplates harmless
  | inner name mustBuffer work => rfl

theorem start_ignored (harmless : Harmless setting.environment id change) (producer : Producer)
    (state : Policy.Logged) (attached : state.request.attachedId = some id) :
    (producer.mapTemplates change).start { setting with freshId := other } state =
      producer.start setting state := by
  cases producer with
  | proxy name policy =>
      -- the response is policed under the prepared request, which still has the id
      have kept := (Proxy.prepare_keepsId policy setting.environment setting.freshId
        state).attached attached
      simp only [mapTemplates, start,
        Proxy.prepare_alike other setting.freshId harmless policy state attached]
      split
      · rfl
      · rename_i prepared done
        rw [done] at kept
        have finish : Proxy.finish (policy.mapTemplates change) setting.environment
            prepared.request = Proxy.finish policy setting.environment prepared.request := by
          funext response
          exact congrArg Prod.fst (policy.applyToResponse_ignored harmless
            (Request.view_requestId kept) response)
        simp only [finish]
  | side request =>
      simp only [mapTemplates, start, SideRequest.prepare_ignored harmless request attached]
  | inner name mustBuffer work => rfl

theorem startAll_ignored (harmless : Harmless setting.environment id change)
    (producers : List Producer) (copies : List Request)
    (attached : ∀ copy ∈ copies, copy.attachedId = some id) (log : LogFields) :
    startAll { setting with freshId := other } log
        ((producers.map (mapTemplates change)).zip copies) =
      startAll setting log (producers.zip copies) := by
  induction producers generalizing copies log with
  | nil => rfl
  | cons producer rest induction =>
      cases copies with
      | nil => rfl
      | cons copy copies =>
          obtain ⟨here, others⟩ := List.forall_mem_cons.mp attached
          have same := start_ignored other harmless producer ⟨copy, log⟩ here
          simp only [List.map_cons, List.zip_cons_cons, startAll, same, induction copies others]

end Producer

namespace ClientRequest

variable {client : ClientRequest}

theorem request_requestsFor (freshId : String) (client : ClientRequest) (names : List String) :
    (client.requestsFor freshId names).2.request = client.request := by
  induction names generalizing client with
  | nil => rfl
  | cons name rest induction => exact induction (client.requestFor name freshId).2

theorem attachedId_requestsFor (attached : client.request.attachedId = some id) (freshId : String)
    (names : List String) :
    ∀ copy ∈ (client.requestsFor freshId names).1, copy.attachedId = some id := by
  induction names generalizing client with
  | nil => exact List.forall_mem_nil _
  | cons name rest induction =>
      have below : (client.requestFor name freshId).2.request.attachedId = some id := attached
      refine List.forall_mem_cons.mpr ⟨?_, induction below⟩
      obtain ⟨context, found, same⟩ := Request.attachedId_eq_some.mp attached
      apply Request.attachedId_eq_some.mpr
      refine ⟨client.nextContext name freshId, rfl, ?_⟩
      rw [nextContext, found]
      exact same

theorem requestsFor_of_attached (attached : client.request.attachedId = some id)
    (other freshId : String) (names : List String) :
    client.requestsFor other names = client.requestsFor freshId names := by
  induction names generalizing client with
  | nil => rfl
  | cons name rest induction =>
      obtain ⟨context, found, _⟩ := Request.attachedId_eq_some.mp attached
      have first : client.requestFor name other = client.requestFor name freshId := by
        simp only [requestFor, nextContext, found, Option.getD_some]
      have below : (client.requestFor name freshId).2.request.attachedId = some id := attached
      simp only [requestsFor, first, induction below]

end ClientRequest

namespace Endpoint

variable {setting : Producer.Setting} {state : Policy.Logged} (other : String)

theorem buffers_mapTemplates (harmless : Harmless environment id change) (endpoint : Endpoint) :
    (endpoint.mapTemplates change).buffers = endpoint.buffers := by
  have producers (producers : List Producer) :
      (producers.map (Producer.mapTemplates change)).any Producer.mustBuffer =
        producers.any Producer.mustBuffer := by
    rw [List.any_map]
    exact congrArg (producers.any ·) (funext (Producer.mustBuffer_mapTemplates harmless))
  have redirect : (endpoint.options.redirect.map (Redirect.mapTemplates change)).any
      Redirect.mustBuffer = endpoint.options.redirect.any Redirect.mustBuffer := by
    cases endpoint.options.redirect with
    | none => rfl
    | some redirect =>
        simp only [Option.map_some, Option.any_some, Redirect.mustBuffer, Redirect.mapTemplates,
          templates_mapFields, harmless.reads, harmless.any_map]
  have response : (endpoint.options.response.map (StaticResponse.mapTemplates change)).any
      StaticResponse.mustBuffer = endpoint.options.response.any StaticResponse.mustBuffer := by
    cases endpoint.options.response with
    | none => rfl
    | some answer =>
        simp only [Option.map_some, Option.any_some, StaticResponse.mustBuffer,
          StaticResponse.mapTemplates, templates_mapFields, harmless.any_option, harmless.any_map]
  simp only [buffers, readsBody, mapTemplates, EndpointOptions.mapTemplates, producers, redirect,
    response, Policy.mustBuffer_mapTemplates harmless]

theorem captureBody_sameId (endpoint : Endpoint) (freshId : String) (request : Request) :
    Request.SameId request (endpoint.captureBody freshId request).1 := by
  have attached := Request.withContext_sameId request freshId
  unfold captureBody
  dsimp only
  split
  · split
    · exact attached
    · split
      · exact attached.trans (.of_context rfl)
      · refine attached.trans (Request.SameId.trans (.of_context rfl)
          (Request.mapContext_sameId _ fun _ => rfl))
  · exact .refl _

theorem captureBody_ignored (harmless : Harmless environment id change) (endpoint : Endpoint)
    (freshId : String) {request : Request} (attached : request.attachedId = some id) :
    (endpoint.mapTemplates change).captureBody other request =
      endpoint.captureBody freshId request := by
  have limit : (endpoint.mapTemplates change).options.bodyLimit = endpoint.options.bodyLimit := rfl
  simp only [captureBody, buffers_mapTemplates harmless, limit,
    Request.withContext_of_attached attached]

theorem start_ignored (harmless : Harmless setting.environment id change) (endpoint : Endpoint)
    (attached : state.request.attachedId = some id) :
    (endpoint.mapTemplates change).start { setting with freshId := other } state =
      endpoint.start setting state := by
  have names (producers : List Producer) :
      (producers.map (Producer.mapTemplates change)).map Producer.name =
        producers.map Producer.name := by
    rw [List.map_map]
    exact congrArg (producers.map ·) (funext (Producer.name_mapTemplates change))
  let client := ClientRequest.ofRequest state.request
  let left := (client.requestsFor setting.freshId (endpoint.proxies.map Producer.name)).2
  have first : client.request.attachedId = some id := attached
  have second : left.request.attachedId = some id := by
    rw [ClientRequest.request_requestsFor]
    exact first
  have proxies := Producer.startAll_ignored other harmless endpoint.proxies _
    (ClientRequest.attachedId_requestsFor first setting.freshId
      (endpoint.proxies.map Producer.name))
  have requests := Producer.startAll_ignored other harmless endpoint.requests _
    (ClientRequest.attachedId_requestsFor second setting.freshId
      (endpoint.requests.map Producer.name))
  unfold start
  dsimp only [mapTemplates]
  rw [names, names, ClientRequest.requestsFor_of_attached first other setting.freshId,
    ClientRequest.requestsFor_of_attached second other setting.freshId, proxies, requests]

theorem ofWorks_mapTemplates (change : String → String) (cancelAt : Option Nat)
    (producers : List Producer) (works : List Work) :
    Report.ofWorks cancelAt (producers.map (Producer.mapTemplates change)) works =
      Report.ofWorks cancelAt producers works := by
  have crews : Crew.ofWorks cancelAt (producers.map (Producer.mapTemplates change)) works =
      Crew.ofWorks cancelAt producers works := by
    simp only [Crew.ofWorks, List.zip_map_left, List.map_map, Function.comp_def, Prod.map_fst,
      Prod.map_snd, Producer.name_mapTemplates, id_eq]
  simp only [Report.ofWorks, crews]

theorem select_ignored (harmless : Harmless environment id change) (options : EndpointOptions)
    {view : RequestView} (seen : view.requestId = id) (outcomes : Outcomes) :
    select (options.mapTemplates change) environment view outcomes =
      select options environment view outcomes := by
  simp only [select, EndpointOptions.mapTemplates]
  cases options.redirect with
  | some redirect => exact redirect.toResponse_ignored harmless seen
  | none =>
      cases options.response with
      | some answer => exact answer.toResponse_ignored harmless seen
      | none => rfl

theorem produce_ignored (harmless : Harmless setting.environment id change) (endpoint : Endpoint)
    (cancelAt : Option Nat) (attached : state.request.attachedId = some id) :
    (endpoint.mapTemplates change).produce { setting with freshId := other } cancelAt state =
      endpoint.produce setting cancelAt state := by
  have kept := (Proxy.applyToRequest_follows endpoint.options.policy setting.environment
    setting.freshId state).sameId.attached attached
  have changed : ((endpoint.mapTemplates change).options.policy.applyToRequest
      setting.environment other state).1 = _ := congrArg Prod.fst
    (Proxy.applyToRequest_alike other setting.freshId harmless endpoint.options.policy state
      attached)
  unfold produce
  dsimp only
  rw [changed]
  generalize (endpoint.options.policy.applyToRequest setting.environment setting.freshId state).1 =
    admitted at kept
  have seen := Request.view_requestId kept
  have outcomes (started : Started) : started.outcomes (endpoint.mapTemplates change) cancelAt =
      started.outcomes endpoint cancelAt := by
    simp only [Started.outcomes, mapTemplates, ofWorks_mapTemplates]
  have options : (endpoint.mapTemplates change).options = endpoint.options.mapTemplates change :=
    rfl
  have finish (response : Response) :
      (endpoint.options.mapTemplates change).policy.applyToResponse setting.environment
        (.of admitted.request) response = endpoint.options.policy.applyToResponse
          setting.environment (.of admitted.request) response :=
    endpoint.options.policy.applyToResponse_ignored harmless seen response
  rw [start_ignored other harmless endpoint kept, outcomes, options,
    select_ignored harmless endpoint.options seen]
  simp only [finish]

theorem refuse_ignored (freshId : String) (harmless : Harmless environment id change)
    (endpoint : Endpoint) (attached : state.request.attachedId = some id) (error : GatewayError) :
    (endpoint.mapTemplates change).refuse environment other state error =
      endpoint.refuse environment freshId state error := by
  simp only [refuse, mapTemplates, EndpointOptions.mapTemplates]
  cases endpoint.options.errorTable with
  | none => rfl
  | some table => exact table.serveError_ignored other freshId harmless attached error

theorem underOwnToken_sameId (freshId : String) (request : Request) :
    Request.SameId request (underOwnToken freshId request) :=
  (Request.Follows.changeContext request freshId fun _ => rfl).sameId

theorem respond_ignored (harmless : Harmless setting.environment id change) (endpoint : Endpoint)
    (cancelAt : Option Nat) (attached : state.request.attachedId = some id) :
    (endpoint.mapTemplates change).respond { setting with freshId := other } cancelAt state =
      endpoint.respond setting cancelAt state := by
  have token : underOwnToken other state.request = underOwnToken setting.freshId state.request := by
    simp only [underOwnToken, Request.withContext_of_attached attached]
  have owned := (underOwnToken_sameId setting.freshId state.request).attached attached
  have kept := (captureBody_sameId endpoint setting.freshId _).attached owned
  unfold respond
  dsimp only
  rw [token, captureBody_ignored other harmless endpoint setting.freshId owned]
  split
  · rename_i captured
    rw [captured] at kept
    exact produce_ignored other harmless endpoint cancelAt kept
  · rename_i captured
    rw [captured] at kept
    rw [refuse_ignored other setting.freshId harmless endpoint kept]

end Endpoint

namespace Route

variable {setting : Producer.Setting} {state : Policy.Logged}

/-- A route serves a request that has an id as before when its templates have been changed without
harm, and however an id would be made up. -/
theorem serve_mapTemplates (route : Route) (other : String)
    (harmless : Harmless setting.environment id change)
    (attached : state.request.attachedId = some id) :
    (route.mapTemplates change).serve { setting with freshId := other } state =
      route.serve setting state := by
  have responded := Endpoint.respond_ignored other harmless route.endpoint none attached
  unfold serve Endpoint.handle Endpoint.serve
  dsimp only [mapTemplates]
  rw [responded]
  rfl

end Route

end Gateway
