import Gateway.Proofs.HeaderSafety
import Gateway.Proofs.Transparency

/-!
No header injection. Every header that goes out is one that came in, or what a template of the
configuration renders to, or the host of a destination. A rendering that cannot stand in a header
stops what it was made for: a proxy or a side request sends nothing, an answer is not made, and a
policy keeps the headers as they are by then.
-/

namespace Gateway

/-- Where a value under a name of an outbound request comes from: the client sent it, or it is what
the template of a field renders to, or the host of a destination. -/
inductive Origin (fields : List (String × String)) (environment : Environment) (came : HeaderMap)
    (header : HeaderName) (value : HeaderValue) : Prop where
  | client (member : value ∈ came.getAll header)
  | field (view : RequestView) (field : String × String) (configured : field ∈ fields)
      (writes : (Scope.ofRequest environment view).Writes field header value)
  | host (named : header = HeaderName.host) (authority : String) (fits : Fits authority)
      (written : value.bytes = Utf8.encode authority)

namespace Origin

variable {fields more : List (String × String)} {environment : Environment} {came middle : HeaderMap}
  {header : HeaderName} {value : HeaderValue}

theorem mono (origin : Origin fields environment came header value) (among : fields ⊆ more) :
    Origin more environment came header value := by
  cases origin with
  | client member => exact .client member
  | field view field configured writes => exact .field view field (among configured) writes
  | host named authority fits written => exact .host named authority fits written

theorem trans (origin : Origin fields environment middle header value)
    (before : value ∈ middle.getAll header → Origin fields environment came header value) :
    Origin fields environment came header value := by
  cases origin with
  | client member => exact before member
  | field view field configured writes => exact .field view field configured writes
  | host named authority fits written => exact .host named authority fits written

theorem of_apply {policy : HeaderPolicy} {view : RequestView}
    (member : value ∈ (policy.apply (Scope.ofRequest environment view) came).1.getAll header) :
    Origin policy.fields environment came header value := by
  rcases HeaderPolicy.mem_getAll_apply member with old | ⟨field, configured, writes⟩
  · exact .client old
  · exact .field view field configured writes

end Origin

namespace Policy

variable {policy : Policy} {environment : Environment} {freshId : String} {template : String}

theorem applyToRequest_of_unfit {state : Logged}
    (member : template ∈ policy.request.fields.map Prod.snd)
    (unfit : (Scope.ofRequest environment (RequestView.of state.request)).Unfit template) :
    ∃ message, (policy.applyToRequest environment freshId state).2 = some (.evaluation message) := by
  obtain ⟨message, failed⟩ := HeaderPolicy.apply_of_unfit member unfit state.request.headers
  refine ⟨message, ?_⟩
  have changed : (changeRequest policy.request environment state.request).2 =
      some (.evaluation message) := failed
  unfold applyToRequest
  split
  · rename_i done
    rw [done] at changed
    exact changed
  · rename_i done
    rw [done] at changed
    contradiction

end Policy

namespace Proxy

variable {policy : Policy} {environment : Environment} {freshId : String} {state after : Policy.Logged}
  {header : HeaderName} {value : HeaderValue} {error : GatewayError}

theorem andThen_of_first {first second : Stage} (failed : (first state).2 = some error) :
    (andThen first second state).2 = some error := by
  unfold andThen
  split
  · rename_i done
    rw [done] at failed
    contradiction
  · rename_i done
    rw [done] at failed
    exact failed

theorem andThen_of_second {first second : Stage} (before : first state = (after, none))
    (failed : (second after).2 = some error) : (andThen first second state).2 = some error := by
  unfold andThen
  rw [before]
  exact failed

theorem applyWebsockets_headers
    (applied : applyWebsockets policy environment freshId state = (after, none)) :
    after.request.headers = state.request.headers ∨ ∃ block ∈ policy.websockets, ∃ view,
      after.request.headers =
        (block.request.apply (Scope.ofRequest environment view) state.request.headers).1 := by
  unfold applyWebsockets at applied
  split at applied
  · simp at applied
  · split at applied
    · simp at applied
    · split at applied
      · rename_i block rest blocks
        obtain ⟨view, headers⟩ := permitUpgrade_headers applied
        split at headers
        · exact .inr ⟨block, by simp [blocks], view, headers⟩
        · exact .inl headers
      · left
        rw [← (Prod.mk.inj applied).1]

def fields (policy : Policy) : List (String × String) :=
  policy.request.fields ++ policy.websockets.flatMap fun block => block.request.fields

theorem hostValue_eq_ok {authority : String} {host : HeaderValue}
    (valued : hostValue authority = .ok host) : Fits authority ∧ host.bytes = Utf8.encode authority := by
  unfold hostValue at valued
  split at valued
  · rename_i parsed
    rw [← Except.ok.inj valued]
    exact HeaderValue.parse_eq_some_iff.mp parsed
  · contradiction

/-- No value is sent that is neither the client's nor a rendering nor the host. -/
theorem origin_of_sent {setting : Producer.Setting} {name : String} {outbound : Request}
    (sent : ((Producer.proxy name policy).start setting state).2.sent = some outbound)
    (member : value ∈ outbound.headers.getAll header) :
    Origin (fields policy) setting.environment state.request.headers header value := by
  obtain ⟨after, prepared, rfl⟩ := prepared_of_sent sent
  obtain ⟨changed, permitted, pointed, first, second, third, stripped⟩ := prepare_stages prepared
  -- back through the stages: each adds no value that is not of one of the three kinds
  have atFirst (member : value ∈ changed.request.headers.getAll header) :
      Origin (fields policy) setting.environment state.request.headers header value := by
    have headers := applyToRequest_headers policy setting.environment setting.freshId state
    rw [first] at headers
    rw [headers] at member
    exact (Origin.of_apply member).mono (List.subset_append_left ..)
  have atSecond (member : value ∈ permitted.request.headers.getAll header) :
      Origin (fields policy) setting.environment state.request.headers header value := by
    rcases applyWebsockets_headers second with same | ⟨block, listed, view, headers⟩
    · rw [same] at member
      exact atFirst member
    · rw [headers] at member
      have among : block.request.fields ⊆ fields policy := fun field own =>
        List.mem_append_right _ (List.mem_flatMap.mpr ⟨block, listed, own⟩)
      exact ((Origin.of_apply member).mono among).trans atFirst
  have kept : value ∈ pointed.request.headers.getAll header := by
    rw [stripped, getAll_strip] at member
    split at member
    · contradiction
    · exact member
  rcases applyUrl_headers third with same | ⟨authority, host, valued, headers⟩
  · rw [same] at kept
    exact atSecond kept
  · rw [headers, HeaderMap.getAll_insert] at kept
    split at kept
    · rename_i here
      obtain ⟨fits, written⟩ := hostValue_eq_ok valued
      rw [List.mem_singleton.mp kept]
      exact .host here.symm authority fits written
    · exact atSecond kept

theorem readDestination_invalid {target : String}
    (failed : readDestination target = .error error) : ∃ message, error = .invalidUri message := by
  unfold readDestination at failed
  split at failed
  · exact ⟨_, (Except.error.inj failed).symm⟩
  · exact ⟨_, (Except.error.inj failed).symm⟩
  · contradiction

theorem aim_invalid {uri : Uri} {address : Url.Address} (failed : aim uri address = .error error) :
    ∃ message, error = .invalidUri message := by
  unfold aim at failed
  split at failed
  · contradiction
  · exact ⟨_, (Except.error.inj failed).symm⟩

theorem hostValue_invalid {authority : String} (failed : hostValue authority = .error error) :
    ¬Fits authority ∧ ∃ message, error = .invalidUri message := by
  unfold hostValue at failed
  split at failed
  · contradiction
  · rename_i unread
    exact ⟨HeaderValue.parse_eq_none_iff.mp unread, _, (Except.error.inj failed).symm⟩

theorem redirect_invalid {request : Request} {target : String}
    (failed : redirect request target = .error error) : ∃ message, error = .invalidUri message := by
  unfold redirect at failed
  cases found : readDestination target with
  | error first =>
      rw [found] at failed
      rw [← Except.error.inj failed]
      exact readDestination_invalid found
  | ok address =>
      cases aimed : aim request.uri address with
      | error second =>
          simp only [found, aimed, bind, Except.bind] at failed
          rw [← Except.error.inj failed]
          exact aim_invalid aimed
      | ok uri =>
          cases valued : hostValue address.authority with
          | error third =>
              simp only [found, aimed, valued, bind, Except.bind] at failed
              rw [← Except.error.inj failed]
              exact (hostValue_invalid valued).2
          | ok host => simp [found, aimed, valued, bind, Except.bind] at failed

/-- Pointing a request at a destination fails as a whole or writes the host as it stands in the
address. -/
theorem pointTo_cases (target : String) (state : Policy.Logged) :
    (∃ message, pointTo target state = (state, some (.invalidUri message))) ∨
      ∃ authority host uri, Fits authority ∧ host.bytes = Utf8.encode authority ∧
        pointTo target state = ({ state with request :=
          { state.request with uri, headers := state.request.headers.insert HeaderName.host host } },
            none) := by
  cases result : redirect state.request target with
  | error error =>
      obtain ⟨message, rfl⟩ := redirect_invalid result
      exact .inl ⟨message, by rw [pointTo, result]⟩
  | ok request =>
      obtain ⟨address, _, rest⟩ := bind_eq_ok.mp result
      obtain ⟨uri, _, rest⟩ := bind_eq_ok.mp rest
      obtain ⟨host, valued, made⟩ := bind_eq_ok.mp rest
      obtain ⟨fits, bytes⟩ := hostValue_eq_ok valued
      refine .inr ⟨address.authority, host, uri, fits, bytes, ?_⟩
      rw [pointTo, result, ← Except.ok.inj made]

def permitted (freshId : String) (request : Request) : Request :=
  (request.withContext freshId).mapContext fun context => { context with allowWebsockets := true }

theorem prepare_of_unfit_block {changed : Policy.Logged} {block : WebsocketsBlock}
    (applied : policy.applyToRequest environment freshId state = (changed, none))
    (only : policy.websockets = [block]) (backends : policy.backends.length ≤ 1)
    (asks : changed.request.isUpgrade = true) {field : String × String}
    (configured : field ∈ block.request.fields)
    (unfit : (Scope.ofRequest environment
      (RequestView.of (permitted freshId changed.request))).Unfit field.2) :
    ∃ message, (prepare policy environment freshId state).2 = some (.evaluation message) := by
  obtain ⟨message, failed⟩ := HeaderPolicy.apply_of_unfit (List.mem_map_of_mem configured) unfit
    changed.request.headers
  refine ⟨message, andThen_of_second applied (andThen_of_first ?_)⟩
  have permits : applyWebsockets policy environment freshId changed =
      permitUpgrade block environment freshId changed := by
    simp [applyWebsockets, only, Nat.not_lt.mpr backends]
  have upgrades : permitUpgrade block environment freshId changed =
      andThen (changeHeaders block environment) (readTimeout block freshId)
        ⟨permitted freshId changed.request, changed.log⟩ := if_pos asks
  rw [permits, upgrades]
  exact andThen_of_first failed

theorem start_of_failed {setting : Producer.Setting} (name : String)
    (failed : (prepare policy setting.environment setting.freshId state).2 = some error) :
    ((Producer.proxy name policy).start setting state).2 = Work.failed error := by
  rw [start_eq]
  dsimp only
  rw [failed]

end Proxy

namespace Producer

variable {setting : Setting} {producer : Producer} {outbound : Request}

def fields : Producer → List (String × String)
  | proxy _ policy => Proxy.fields policy
  | side request => request.block.headers
  | inner _ _ _ => []

theorem origin_of_sent {state : Policy.Logged} {header : HeaderName} {value : HeaderValue}
    (sent : (producer.start setting state).2.sent = some outbound)
    (member : value ∈ outbound.headers.getAll header) :
    Origin producer.fields setting.environment state.request.headers header value := by
  cases producer with
  | proxy name policy => exact Proxy.origin_of_sent sent member
  | side request =>
      simp only [start] at sent
      split at sent
      · contradiction
      · rename_i made prepared
        rw [← Option.some.inj sent] at member
        obtain ⟨field, configured, writes⟩ := (SideRequest.prepare_ok prepared).2 header value member
        exact .field _ field configured writes
  | inner name mustBuffer work => contradiction

theorem mem_startAll {work : Work} {log : LogFields} {copies : List (Producer × Request)}
    (member : work ∈ (startAll setting log copies).2) :
    ∃ producer request fields, (producer, request) ∈ copies ∧
      work = (producer.start setting ⟨request, fields⟩).2 := by
  induction copies generalizing log with
  | nil => contradiction
  | cons copy rest induction =>
      rcases List.mem_cons.mp member with rfl | later
      · exact ⟨copy.1, copy.2, log, List.mem_cons_self, rfl⟩
      · obtain ⟨producer, request, fields, listed, started⟩ := induction later
        exact ⟨producer, request, fields, List.mem_cons_of_mem _ listed, started⟩

end Producer

theorem ClientRequest.headers_requestsFor {freshId : String} {client : ClientRequest}
    {names : List String} {copy : Request} (member : copy ∈ (client.requestsFor freshId names).1) :
    copy.headers = client.request.headers := by
  induction names generalizing client with
  | nil => contradiction
  | cons name rest induction =>
      rcases List.mem_cons.mp member with rfl | later
      · rfl
      · have same := induction later
        exact same

namespace Endpoint

variable {endpoint : Endpoint} {setting : Producer.Setting} {state : Policy.Logged}

def fields (endpoint : Endpoint) : List (String × String) :=
  endpoint.options.policy.request.fields ++ endpoint.producers.flatMap Producer.fields

theorem headers_captureBody (endpoint : Endpoint) (freshId : String) (request : Request) :
    (endpoint.captureBody freshId request).1.headers = request.headers := by
  unfold captureBody
  split
  · dsimp only
    split
    · rfl
    · split <;> rfl
  · rfl

theorem sent_of_refused {State : Type} {cancelAt : Option Nat} {write : Writer State}
    {target : State} (refused : ¬endpoint.Accepts setting state) :
    (endpoint.serve setting cancelAt write target state).2.sent = [] := by
  rw [serve_trace]
  unfold respond
  split
  · rename_i captured
    exact absurd (congrArg Prod.snd captured) refused
  · rfl

/-- Whatever is sent on behalf of a request, its headers are the client's or renderings. -/
theorem origin_of_sent {State : Type} {cancelAt : Option Nat} {write : Writer State}
    {target : State} {outbound : Request} {header : HeaderName} {value : HeaderValue}
    (sent : outbound ∈ (endpoint.serve setting cancelAt write target state).2.sent)
    (member : value ∈ outbound.headers.getAll header) :
    Origin endpoint.fields setting.environment state.request.headers header value := by
  by_cases accepted : endpoint.Accepts setting state
  · rw [(trace_serve cancelAt write target accepted).2, calls, List.filterMap_map,
      List.mem_filterMap] at sent
    obtain ⟨work, listed, sends⟩ := sent
    obtain ⟨producer, copy, log, paired, rfl⟩ := Producer.mem_startAll listed
    obtain ⟨among, copied⟩ := List.of_mem_zip paired
    have same : copy.headers = (endpoint.admitted setting state).request.headers :=
      ClientRequest.headers_requestsFor copied
    have own : producer.fields ⊆ endpoint.fields := fun field configured =>
      List.mem_append_right _ (List.mem_flatMap.mpr ⟨producer, among, configured⟩)
    apply ((Producer.origin_of_sent sends member).mono own).trans
    -- the copies carry the headers as the policy of the route has left them
    intro before
    rw [show (Policy.Logged.mk copy log).request.headers = copy.headers from rfl, same, admitted,
      Proxy.applyToRequest_headers, headers_captureBody] at before
    exact (Origin.of_apply before).mono (List.subset_append_left ..)
  · rw [sent_of_refused accepted] at sent
    contradiction

end Endpoint

theorem AllowedMethods.refuse_eq (page : ErrorPage) (methods : List Method) (request : Request) :
    let answer := page.serve request (.methodNotAllowed request.method.text)
    ∃ allow, allow.bytes = Utf8.encode (", ".intercalate (methods.map Method.text)) ∧
      refuse page methods request =
        { answer with headers := answer.headers.insert HeaderName.allow allow } := by
  have tokens : ∀ text ∈ methods.map Method.text, isToken text = true := by
    intro text listed
    obtain ⟨method, _, rfl⟩ := List.mem_map.mp listed
    exact method.valid
  cases read : allowValue methods with
  | none => exact absurd (fits_of_tokens tokens) (HeaderValue.parse_eq_none_iff.mp read)
  | some allow =>
      refine ⟨allow, (HeaderValue.parse_eq_some_iff.mp read).2, ?_⟩
      rw [refuse, read]

namespace Service

theorem addRequestId_of_unfit {id : String} (unfit : ¬Fits id) (headers : HeaderMap) :
    addRequestId id headers = headers := by
  unfold addRequestId
  rw [HeaderValue.parse_eq_none_iff.mpr unfit]

/-- No header injection. Every header that goes out is clean, and those of a request to a backend are
the client's, renderings of configured fields, or a host. A rendering that cannot stand in a header
fails the operation it is made for with an error of evaluation, a host with one of the destination,
and adds no header: a policy leaves only what it has rendered before, a proxy or a side request sends
nothing, and an answer is not made. -/
theorem no_header_injection (route : Route) (endpoint : Endpoint) (setting : Producer.Setting)
    (cancelAt : Option Nat) (state : Policy.Logged) (view : RequestView) :
    let served := endpoint.serve setting cancelAt Endpoint.record [] state
    let answered := serve route setting state
    let environment := setting.environment
    let scope := Scope.ofRequest environment (RequestView.of state.request)
    let came := state.request.headers
    (∀ request ∈ served.2.sent ++ answered.2.sent, request.headers.Clean) ∧
    (∀ response ∈ served.1.1 ++ answered.1.toOption.toList, response.headers.Clean) ∧
    (∀ request ∈ served.2.sent, ∀ header, ∀ value ∈ request.headers.getAll header,
      Origin endpoint.fields environment came header value) ∧
    -- policies on requests, also those of proxies
    (∀ policy : Policy,
      let changed := policy.applyToRequest environment setting.freshId state
      (∀ header, ∀ value ∈ changed.1.request.headers.getAll header,
        Origin policy.request.fields environment came header value) ∧
      ∀ field ∈ policy.request.fields, scope.Unfit field.2 → ∃ message,
        changed.2 = some (.evaluation message) ∧
        ∀ name, ((Producer.proxy name policy).start setting state).2 = .failed (.evaluation message)) ∧
    -- the block for upgrades
    (∀ policy block changed, policy.websockets = [block] → policy.backends.length ≤ 1 →
      policy.applyToRequest environment setting.freshId state = (changed, none) →
      changed.request.isUpgrade = true → ∀ field ∈ block.request.fields,
        (Scope.ofRequest environment
          (RequestView.of (Proxy.permitted setting.freshId changed.request))).Unfit field.2 →
        ∃ message, ∀ name,
          ((Producer.proxy name policy).start setting state).2 = .failed (.evaluation message)) ∧
    (∀ name policy error, (Proxy.prepare policy environment setting.freshId state).2 = some error →
      ((Producer.proxy name policy).start setting state).2 = .failed error) ∧
    -- hosts of destinations
    (∀ target, (∃ message, Proxy.pointTo target state = (state, some (.invalidUri message))) ∨
      ∃ authority host uri, Fits authority ∧ host.bytes = Utf8.encode authority ∧
        Proxy.pointTo target state = ({ state with request :=
          { state.request with uri, headers := came.insert HeaderName.host host } }, none)) ∧
    -- side requests
    (∀ side : SideRequest, ∀ url uri, scope.render side.block.url = .ok url →
      SideRequest.target side.block.name url = .ok uri →
      ∀ field ∈ side.block.headers, scope.Unfit field.2 → ∃ message,
        (Producer.side side).start setting state = (state.log, .failed (.evaluation message))) ∧
    -- redirects and fixed responses
    (∀ redirect : Redirect,
      (∀ response, redirect.toResponse environment view = .ok response →
        ∀ header, ∀ value ∈ response.headers.getAll header,
          ∃ field ∈ redirect.fields, (Scope.ofRequest environment view).Writes field header value) ∧
      ∀ status, redirect.statusOf = .ok status → ∀ field ∈ redirect.fields,
        (Scope.ofRequest environment view).Unfit field.2 →
          ∃ message, redirect.toResponse environment view = .error (.evaluation message)) ∧
    (∀ answer : StaticResponse,
      (∀ response, answer.toResponse environment view = .ok response →
        ∀ header, ∀ value ∈ response.headers.getAll header,
          ∃ field ∈ answer.headers, (Scope.ofRequest environment view).Writes field header value) ∧
      ∀ status, answer.statusOf = .ok status → ∀ field ∈ answer.headers,
        (Scope.ofRequest environment view).Unfit field.2 →
          ∃ message, answer.toResponse environment view = .error (.evaluation message)) ∧
    -- policies on responses
    (∀ policy : Policy, ∀ response : Response,
      let scope : Scope := ⟨environment, view, some (.of response)⟩
      let changed := policy.applyToResponse environment view response
      (∀ header, ∀ value ∈ changed.1.headers.getAll header,
        value ∈ response.headers.getAll header ∨
          ∃ field ∈ policy.response.fields, scope.Writes field header value) ∧
      ∀ field ∈ policy.response.fields, scope.Unfit field.2 →
        ∃ message, changed.2 = some (.evaluation message)) ∧
    -- error pages, lists of allowed methods and ids of requests
    (∀ page : ErrorPage, ∀ error,
      ¬Fits page.contentType ∨ ¬Fits (RequestView.of state.request).requestId →
        (page.serve state.request error).headers = .empty) ∧
    (∀ page methods, ∃ allow : HeaderValue,
      allow.bytes = Utf8.encode (", ".intercalate (methods.map Method.text)) ∧
      let answer := page.serve state.request (.methodNotAllowed state.request.method.text)
      AllowedMethods.refuse page methods state.request =
        { answer with headers := answer.headers.insert HeaderName.allow allow }) ∧
    (∀ id headers, ¬Fits id → addRequestId id headers = headers) := by
  intro served answered environment scope came
  refine ⟨fun request _ => request.headers.clean, fun response _ => response.headers.clean,
    fun request sent header value => Endpoint.origin_of_sent sent, ?_, ?_,
    fun name policy error => Proxy.start_of_failed name, ?_, ?_, ?_, ?_, ?_, ?_,
    fun page methods => AllowedMethods.refuse_eq page methods state.request, ?_⟩
  · intro policy changed
    constructor
    · intro header value member
      rw [Proxy.applyToRequest_headers] at member
      exact Origin.of_apply member
    · intro field configured unfit
      obtain ⟨message, failed⟩ := Policy.applyToRequest_of_unfit
        (List.mem_map_of_mem configured) unfit
      exact ⟨message, failed, fun name => Proxy.start_of_failed name (Proxy.andThen_of_first failed)⟩
  · intro policy block changed only backends applied asks field configured unfit
    obtain ⟨message, failed⟩ :=
      Proxy.prepare_of_unfit_block applied only backends asks configured unfit
    exact ⟨message, fun name => Proxy.start_of_failed name failed⟩
  · exact fun target => Proxy.pointTo_cases target state
  · intro side url uri rendered parsed field configured unfit
    obtain ⟨message, failed⟩ := (SideRequest.prepare_rendered rendered parsed).failed
      fun outbound made => (SideRequest.prepare_ok made).1 field configured unfit
    refine ⟨message, ?_⟩
    rw [Producer.start, failed]
  · intro redirect
    refine ⟨fun response made => (Redirect.toResponse_ok made).2, ?_⟩
    intro status valid field configured unfit
    apply (Redirect.toResponse_rendered valid).failed
    exact fun response made => (Redirect.toResponse_ok made).1 field configured unfit
  · intro answer
    refine ⟨fun response made => (StaticResponse.toResponse_ok made).2, ?_⟩
    intro status valid field configured unfit
    apply (StaticResponse.toResponse_rendered valid).failed
    exact fun response made => (StaticResponse.toResponse_ok made).1 field configured unfit
  · intro policy response scope changed
    constructor
    · exact fun header value member => HeaderPolicy.mem_getAll_apply member
    · intro field configured unfit
      exact HeaderPolicy.apply_of_unfit (List.mem_map_of_mem configured) unfit response.headers
  · intro page error unfit
    rw [ErrorPage.serve_of_unfit unfit]
    rfl
  · exact fun id headers unfit => addRequestId_of_unfit unfit headers

def gossip : Policy := { request := { set := [("x-name", "$\x7brequest.query.name\x7d")] } }

def crafty : Request :=
  { Endpoint.upload with uri := { Uri.root with query := some "name=a%0D%0Aset-cookie:b" } }

theorem no_header_injection_by_query :
    ∃ message, ((Producer.proxy "app" gossip).start Endpoint.stillSetting ⟨crafty, []⟩).2 =
      .failed (.evaluation message) := by
  have rendered : (Scope.ofRequest [] (RequestView.of crafty)).render "$\x7brequest.query.name\x7d" =
      .ok "a\r\nset-cookie:b" := by decide +kernel
  have unfit : (Scope.ofRequest [] (RequestView.of crafty)).Unfit "$\x7brequest.query.name\x7d" := by
    refine ⟨_, rendered, ?_⟩
    rw [fits_iff_chars]
    intro fits
    exact absurd (fits '\r' (by decide)) (by decide)
  have safe := no_header_injection ⟨[], [], .html, Endpoint.attentive⟩ Endpoint.attentive
    Endpoint.stillSetting none ⟨crafty, []⟩ (RequestView.of crafty)
  obtain ⟨message, _, stopped⟩ := (safe.2.2.2.1 gossip).2 _ (List.mem_singleton_self _) unfit
  exact ⟨message, stopped "app"⟩

end Service

end Gateway
