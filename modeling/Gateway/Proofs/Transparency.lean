import Gateway.Proofs.Buffering

/-!
Capturing a body shows nowhere. Where no template reads the body, the copies that the producers get
of a captured request are those of the streamed one up to their bodies, and the first copy carries
the same bytes. So every call goes out alike, the first with the same content, and the answer, which
depends on no more than the first outcome, is the same.
-/

namespace Gateway

namespace Request

variable {left right : Request}

def content (request : Request) : Method × Uri × HeaderMap × Except GatewayError Bytes :=
  (request.method, request.uri, request.headers, request.body.collect)

theorem content_congr (apart : left.withoutBody = right.withoutBody)
    (body : left.body.collect = right.body.collect) : left.content = right.content := by
  simp only [withoutBody, Request.mk.injEq] at apart
  simp only [content, apart, body]

theorem views_apart (apart : left.withoutBody = right.withoutBody) :
    (RequestView.of left).withoutBody = (RequestView.of right).withoutBody := by
  rw [← view_withoutBody, apart, view_withoutBody]

theorem agree {templates : List String} (environment : Environment)
    (apart : left.withoutBody = right.withoutBody)
    (blind : templates.any referencesBody = false) :
    (Scope.ofRequest environment (RequestView.of left)).Agree
      (.ofRequest environment (RequestView.of right)) templates :=
  Scope.agree_of_apart (congrArg (Scope.ofRequest environment) (views_apart apart)) blind

def captured (request : Request) : Option Bytes := request.context.bind Context.bufferedBody

end Request

theorem Policy.applyToResponse_congr {policy : Policy} (environment : Environment)
    {left right : RequestView} (apart : left.withoutBody = right.withoutBody)
    (blind : policy.mustBuffer = false) :
    policy.applyToResponse environment left = policy.applyToResponse environment right := by
  have response := (Proxy.blind_parts blind).2.1
  funext answer
  have scopes : Scope.withoutBody ⟨environment, left, some (.of answer)⟩ =
      Scope.withoutBody ⟨environment, right, some (.of answer)⟩ :=
    congrArg (Scope.mk environment · (some (.of answer))) apart
  unfold applyToResponse
  dsimp only
  rw [HeaderPolicy.apply_congr (Scope.agree_of_apart scopes response)]

theorem Proxy.untouched_bufferedBody : Untouched Context.bufferedBody :=
  ⟨fun _ => rfl, fun _ _ => rfl⟩

theorem Policy.applyToRequest_captured {policy : Policy} {environment : Environment}
    {freshId : String} (state : Policy.Logged) :
    (policy.applyToRequest environment freshId state).1.request.captured =
      state.request.captured :=
  Proxy.applyToRequest_keeps Proxy.untouched_bufferedBody policy environment freshId state

theorem Proxy.SparesBody.apart {stage : Stage} (spares : SparesBody stage)
    {left right : Policy.Logged} (apart : left.withoutBody = right.withoutBody) :
    (stage left).1.withoutBody = (stage right).1.withoutBody ∧ (stage left).2 = (stage right).2 := by
  have same := spares.unread left
  rw [apart, spares.unread right, Prod.mk.injEq] at same
  exact ⟨same.1.symm, same.2.symm⟩

def Backend.OfContent (backend : Backend) : Prop :=
  ∀ left right, left.content = right.content → backend left = backend right

theorem SideRequest.prepare_apart {side : SideRequest} (environment : Environment)
    {left right : Request} (blind : side.mustBuffer = false)
    (apart : left.withoutBody = right.withoutBody) :
    (side.prepare environment left).map (fun outbound => (outbound.withoutBody, outbound.body)) =
      (side.prepare environment right).map fun outbound => (outbound.withoutBody, outbound.body) := by
  simp only [mustBuffer, Bool.or_eq_false_iff] at blind
  obtain ⟨⟨target, fields⟩, body⟩ := blind
  have single : [side.block.url].any referencesBody = false := by simpa using target
  have url := Request.agree environment apart single _ List.mem_cons_self
  have headers := renderHeaders_congr (Request.agree environment apart fields) .empty
  have unread : side.block.body.toList.any referencesBody = false := by
    rw [← body]
    cases side.block.body <;> simp
  have rendered := renderBody_congr (Request.agree environment apart unread)
  have context : left.context.map Context.withoutBody = right.context.map Context.withoutBody :=
    congrArg Request.context apart
  unfold prepare
  simp only [url, headers, rendered, bind, Except.bind]
  split
  · rfl
  · split
    · rfl
    · split
      · rfl
      · split
        · rfl
        · simp only [Except.map, Request.withoutBody, context]

/-- Work that was started twice: what is written down is the same and so is what is sent, but for
the bodies; where the bodies are the same too, so is what the work comes to. -/
structure Work.Alike (sameBody : Prop) (first second : LogFields × Work) : Prop where
  log : first.1 = second.1
  sent : first.2.sent.map Request.withoutBody = second.2.sent.map Request.withoutBody
  content : sameBody → first.2.sent.map Request.content = second.2.sent.map Request.content
  reaction : sameBody → first.2.reaction = second.2.reaction

namespace Producer

variable {setting : Setting} {producer : Producer} {log : LogFields} {left right : Request}

/-- A producer that does not go by more than the content of its copy. -/
def OfContent : Producer → Prop
  | inner _ _ work => Backend.OfContent work
  | _ => True

theorem start_proxy_alike {policy : Policy} (backend : setting.backend.OfContent) (name : String)
    (blind : policy.mustBuffer = false) (apart : left.withoutBody = right.withoutBody) :
    Work.Alike (left.body.collect = right.body.collect)
      (start setting (proxy name policy) ⟨left, log⟩)
      (start setting (proxy name policy) ⟨right, log⟩) := by
  have spares : Proxy.SparesBody (Proxy.prepare policy setting.environment setting.freshId) :=
    Proxy.prepare_spares blind
  have states : Policy.Logged.withoutBody ⟨left, log⟩ = Policy.Logged.withoutBody ⟨right, log⟩ :=
    congrArg (Policy.Logged.mk · log) apart
  have same := spares.apart states
  have leftBody := spares.unchanged ⟨left, log⟩
  have rightBody := spares.unchanged ⟨right, log⟩
  simp only [start]
  generalize Proxy.prepare policy setting.environment setting.freshId ⟨left, log⟩ = first
    at same leftBody ⊢
  generalize Proxy.prepare policy setting.environment setting.freshId ⟨right, log⟩ = second
    at same rightBody ⊢
  -- both sides fail alike or come to requests that differ at most in their bodies
  obtain ⟨⟨prepared, fields⟩, failure⟩ := first
  obtain ⟨⟨other, otherFields⟩, otherFailure⟩ := second
  dsimp only at same leftBody rightBody
  obtain ⟨sides, rfl⟩ := same
  obtain ⟨requests, rfl⟩ := Policy.Logged.mk.inj sides
  cases failure with
  | some error => exact ⟨rfl, rfl, fun _ => rfl, fun _ => rfl⟩
  | none =>
      have content (body : left.body.collect = right.body.collect) :
          prepared.content = other.content := by
        apply Request.content_congr requests
        rw [leftBody, rightBody, body]
      refine ⟨rfl, congrArg some requests, fun body => congrArg some (content body), ?_⟩
      intro body
      have finish : Proxy.finish policy setting.environment prepared =
          Proxy.finish policy setting.environment other := by
        funext response
        rw [Proxy.finish, Proxy.finish, Policy.applyToResponse_congr _ (Request.views_apart requests) blind]
      simp only [finish, backend _ _ (content body)]

theorem start_side_alike {request : SideRequest} (backend : setting.backend.OfContent)
    (blind : request.mustBuffer = false) (apart : left.withoutBody = right.withoutBody)
    (sameBody : Prop) :
    Work.Alike sameBody (start setting (side request) ⟨left, log⟩)
      (start setting (side request) ⟨right, log⟩) := by
  have same := SideRequest.prepare_apart setting.environment blind apart
  simp only [start]
  generalize request.prepare setting.environment left = first at same ⊢
  generalize request.prepare setting.environment right = second at same ⊢
  rcases first with error | outbound <;> rcases second with error | other
  · cases same
    exact ⟨rfl, rfl, fun _ => rfl, fun _ => rfl⟩
  · cases same
  · cases same
  · obtain ⟨requests, body⟩ := Prod.mk.inj (Except.ok.inj same)
    have content : outbound.content = other.content :=
      Request.content_congr requests (congrArg Body.collect body)
    exact ⟨rfl, congrArg some requests, fun _ => congrArg some content,
      fun _ => backend _ _ content⟩

theorem start_alike (log : LogFields) (backend : setting.backend.OfContent)
    (byContent : producer.OfContent) (blind : producer.mustBuffer = false)
    (apart : left.withoutBody = right.withoutBody) :
    Work.Alike (left.body.collect = right.body.collect) (start setting producer ⟨left, log⟩)
      (start setting producer ⟨right, log⟩) := by
  cases producer with
  | proxy name policy => exact start_proxy_alike backend name blind apart
  | side request => exact start_side_alike backend blind apart _
  | inner name mustBuffer work =>
      exact ⟨rfl, rfl, fun _ => rfl, fun body => byContent _ _ (Request.content_congr apart body)⟩

theorem startAll_append (first second : List (Producer × Request)) (log : LogFields) :
    startAll setting log (first ++ second) =
      ((startAll setting (startAll setting log first).1 second).1,
        (startAll setting log first).2 ++ (startAll setting (startAll setting log first).1 second).2) := by
  induction first generalizing log with
  | nil => rfl
  | cons copy rest induction => simp only [List.cons_append, startAll, induction]

/-- Producers that are started on copies that differ in no more than their bodies. -/
theorem startAll_alike {producers : List Producer} {left right : List Request} (log : LogFields)
    (backend : setting.backend.OfContent) (byContent : ∀ producer ∈ producers, producer.OfContent)
    (blind : producers.any mustBuffer = false)
    (apart : left.map Request.withoutBody = right.map Request.withoutBody) :
    let first := startAll setting log (producers.zip left)
    let second := startAll setting log (producers.zip right)
    first.1 = second.1 ∧
      first.2.map (fun work => work.sent.map Request.withoutBody) =
        second.2.map (fun work => work.sent.map Request.withoutBody) := by
  -- on the producers: the log is the same on both sides when the next one is started
  induction producers generalizing log left right with
  | nil => exact ⟨rfl, rfl⟩
  | cons producer rest induction =>
      obtain ⟨of, others⟩ := List.forall_mem_cons.mp byContent
      rw [List.any_cons, Bool.or_eq_false_iff] at blind
      cases left with
      | nil =>
          rw [List.map_nil, eq_comm, List.map_eq_nil_iff] at apart
          rw [apart]
          exact ⟨rfl, rfl⟩
      | cons copy copies =>
          cases right with
          | nil => simp at apart
          | cons other more =>
              obtain ⟨here, there⟩ := List.cons.inj apart
              have first := start_alike log backend of blind.1 here
              have later := induction (producer.start setting ⟨copy, log⟩).1 others
                blind.2 there
              simp only [List.zip_cons_cons, startAll, List.map_cons]
              rw [first.log] at later ⊢
              exact ⟨later.1, congr (congrArg List.cons first.sent) later.2⟩

end Producer

namespace ClientRequest

variable {left right : ClientRequest} {freshId : String}

theorem requestFor_apart (name freshId : String) (issued : left.issued = right.issued)
    (apart : left.request.withoutBody = right.request.withoutBody) :
    (left.requestFor name freshId).1.withoutBody = (right.requestFor name freshId).1.withoutBody := by
  have below (client : ClientRequest) : (client.nextContext name freshId).withoutBody =
      ((client.request.withoutBody.context.getD (Context.new freshId)).child (some name)
        client.issued) := by
    cases attached : client.request.context <;>
      simp [nextContext, Request.withoutBody, attached, Context.child, Context.withoutBody,
        Context.new]
  have contexts : (left.nextContext name freshId).withoutBody =
      (right.nextContext name freshId).withoutBody := by
    rw [below, below, apart, issued]
  simp only [Request.withoutBody, Request.mk.injEq] at apart
  simp only [requestFor, Request.withoutBody, Option.map_some, contexts, apart]

theorem requestsFor_apart (names : List String) (issued : left.issued = right.issued)
    (apart : left.request.withoutBody = right.request.withoutBody) :
    (left.requestsFor freshId names).1.map Request.withoutBody =
      (right.requestsFor freshId names).1.map Request.withoutBody := by
  induction names generalizing left right with
  | nil => rfl
  | cons name rest induction =>
      have first := requestFor_apart name freshId issued apart
      have later := @induction (left.requestFor name freshId).2 (right.requestFor name freshId).2
        (congrArg (· + 1) issued) apart
      simp only [requestsFor, List.map_cons, first, later]

theorem requestsFor_append (freshId : String) (client : ClientRequest) (first second : List String) :
    client.requestsFor freshId (first ++ second) =
      ((client.requestsFor freshId first).1 ++
          ((client.requestsFor freshId first).2.requestsFor freshId second).1,
        ((client.requestsFor freshId first).2.requestsFor freshId second).2) := by
  induction first generalizing client with
  | nil => rfl
  | cons name rest induction => simp only [List.cons_append, requestsFor, induction]

end ClientRequest

def Producer.outcome (cancelAt : Option Nat) (entry : Producer × Work) :
    Except GatewayError Response :=
  Task.outcome ⟨0, entry.1.name, entry.2.conclude cancelAt⟩

theorem Crew.outcomes_ofWorks (cancelAt : Option Nat) (producers : List Producer)
    (works : List Work) :
    (Crew.ofWorks cancelAt producers works).tasks.map Task.outcome =
      (producers.zip works).map (Producer.outcome cancelAt) := by
  let outcome := fun entry : String × Ending => Task.outcome ⟨0, entry.1, entry.2⟩
  let endings := (producers.zip works).map fun entry =>
    (entry.1.name, entry.2.conclude cancelAt)
  calc (Crew.ofWorks cancelAt producers works).tasks.map Task.outcome
      = endings.zipIdx.map (outcome ∘ Prod.fst) := List.map_map
    _ = endings.map outcome := by rw [← List.map_map, List.zipIdx_map_fst]
    _ = _ := List.map_map

namespace Endpoint

variable {endpoint : Endpoint} {setting : Producer.Setting} {cancelAt : Option Nat}
  {state : Policy.Logged}

def producers (endpoint : Endpoint) : List Producer := endpoint.proxies ++ endpoint.requests

def copies (endpoint : Endpoint) (freshId : String) (request : Request) : List Request :=
  ((ClientRequest.ofRequest request).requestsFor freshId (endpoint.producers.map Producer.name)).1

def startAll (endpoint : Endpoint) (setting : Producer.Setting) (state : Policy.Logged) :
    LogFields × List Work :=
  Producer.startAll setting state.log
    (endpoint.producers.zip (endpoint.copies setting.freshId state.request))

theorem start_eq_startAll (endpoint : Endpoint) (setting : Producer.Setting)
    (state : Policy.Logged) :
    let started := endpoint.start setting state
    (started.log, started.proxies ++ started.requests) = endpoint.startAll setting state := by
  have paired := ClientRequest.length_requestsFor setting.freshId
    (ClientRequest.ofRequest state.request) (endpoint.proxies.map Producer.name)
  simp only [startAll, copies, producers, List.map_append, ClientRequest.requestsFor_append]
  rw [List.zip_append (by simpa using paired.symm), Producer.startAll_append]
  rfl

theorem results_eq (endpoint : Endpoint) (setting : Producer.Setting) (cancelAt : Option Nat)
    (state : Policy.Logged) :
    FanIn.results (endpoint.crews setting cancelAt state) =
      (endpoint.producers.zip (endpoint.startAll setting (endpoint.admitted setting state)).2).map
        (Producer.outcome cancelAt) := by
  have all := congrArg Prod.snd
    (start_eq_startAll endpoint setting (endpoint.admitted setting state))
  obtain ⟨proxies, _⟩ := length_start endpoint setting (endpoint.admitted setting state)
  rw [← all, producers, List.zip_append proxies.symm, List.map_append]
  exact congr (congrArg _ (Crew.outcomes_ofWorks ..)) (Crew.outcomes_ofWorks ..)

theorem head_outcomes (cancelAt : Option Nat) {works others : List Work}
    (reaction : works.head?.map Work.reaction = others.head?.map Work.reaction)
    (producers : List Producer) :
    ((producers.zip works).map (Producer.outcome cancelAt)).head? =
      ((producers.zip others).map (Producer.outcome cancelAt)).head? := by
  cases producers with
  | nil => rfl
  | cons producer rest =>
      cases works with
      | nil =>
          cases others with
          | nil => rfl
          | cons other more => cases reaction
      | cons work works =>
          cases others with
          | nil => cases reaction
          | cons other others =>
              have same : work.conclude cancelAt = other.conclude cancelAt := by
                unfold Work.conclude Work.isCancelled
                rw [Option.some.inj reaction]
              exact congrArg (fun ending => some (Task.outcome ⟨0, producer.name, ending⟩)) same

theorem reference_congr {options : EndpointOptions} {environment : Environment}
    {left right : Request} {results others : List (Except GatewayError Response)}
    (apart : left.withoutBody = right.withoutBody)
    (redirect : options.redirect.any Redirect.mustBuffer = false)
    (response : options.response.any StaticResponse.mustBuffer = false)
    (length : results.length = others.length) (first : results.head? = others.head?) :
    reference options environment (RequestView.of left) results =
      reference options environment (RequestView.of right) others := by
  unfold reference
  cases redirected : options.redirect with
  | some answer =>
      have blind : answer.mustBuffer = false := by simpa [redirected] using redirect
      exact Redirect.toResponse_apart blind (Request.views_apart apart)
  | none =>
      cases fixed : options.response with
      | some answer =>
          have blind : answer.mustBuffer = false := by simpa [fixed] using response
          exact StaticResponse.toResponse_apart blind (Request.views_apart apart)
      | none =>
          -- more than one result is an error that tells no more than their number
          match results, others with
          | [], [] => rfl
          | [result], [other] => exact Option.some.inj first
          | _ :: _ :: _, _ :: _ :: _ => simp_all

theorem startAll_alike {left right : Policy.Logged} (backend : setting.backend.OfContent)
    (byContent : ∀ producer ∈ endpoint.producers, producer.OfContent)
    (blind : endpoint.producers.any Producer.mustBuffer = false)
    (apart : left.withoutBody = right.withoutBody) :
    (endpoint.startAll setting left).1 = (endpoint.startAll setting right).1 ∧
      (endpoint.startAll setting left).2.map (fun work => work.sent.map Request.withoutBody) =
        (endpoint.startAll setting right).2.map fun work => work.sent.map Request.withoutBody := by
  obtain ⟨requests, logs⟩ := Policy.Logged.mk.inj apart
  have copied : (endpoint.copies setting.freshId left.request).map Request.withoutBody =
      (endpoint.copies setting.freshId right.request).map Request.withoutBody :=
    ClientRequest.requestsFor_apart _ rfl requests
  have started := Producer.startAll_alike left.log backend byContent blind copied
  unfold startAll
  rw [← logs]
  exact started

def firstBody (request : Request) : Body := (ClientRequest.ofRequest request).nextBody

theorem firstBody_eq (request : Request) :
    firstBody request = (request.captured.map Body.ofBytes).getD request.body := by
  unfold firstBody ClientRequest.nextBody
  have buffered : (ClientRequest.ofRequest request).buffered = request.captured := rfl
  rw [buffered]
  cases request.captured <;> rfl

theorem first_alike {left right : Policy.Logged} (backend : setting.backend.OfContent)
    (byContent : ∀ producer ∈ endpoint.producers, producer.OfContent)
    (blind : endpoint.producers.any Producer.mustBuffer = false)
    (apart : left.withoutBody = right.withoutBody)
    (body : (firstBody left.request).collect = (firstBody right.request).collect) :
    let first := (endpoint.startAll setting left).2.head?
    let second := (endpoint.startAll setting right).2.head?
    first.map (fun work => work.sent.map Request.content) =
        second.map (fun work => work.sent.map Request.content) ∧
      first.map Work.reaction = second.map Work.reaction := by
  obtain ⟨requests, logs⟩ := Policy.Logged.mk.inj apart
  unfold startAll copies
  generalize endpoint.producers = producers at byContent blind ⊢
  cases producers with
  | nil => exact ⟨rfl, rfl⟩
  | cons producer rest =>
      rw [List.any_cons, Bool.or_eq_false_iff] at blind
      have copied : ((ClientRequest.ofRequest left.request).requestFor producer.name
          setting.freshId).1.withoutBody = ((ClientRequest.ofRequest right.request).requestFor
            producer.name setting.freshId).1.withoutBody :=
        ClientRequest.requestFor_apart _ _ rfl requests
      have first := Producer.start_alike left.log backend
        (byContent producer List.mem_cons_self) blind.1 copied
      have content := first.content body
      have reaction := first.reaction body
      rw [← logs]
      exact ⟨congrArg some content, congrArg some reaction⟩

def buffering (endpoint : Endpoint) (buffer : Bool) : Endpoint :=
  { endpoint with options := { endpoint.options with buffer } }

def calls (endpoint : Endpoint) (setting : Producer.Setting) (state : Policy.Logged) :
    List (Option Request) :=
  (endpoint.startAll setting (endpoint.admitted setting state)).2.map Work.sent

theorem capture_apart (freshId : String) {request : Request}
    (blind : endpoint.readsBody = false)
    (taken : request.body.refusal endpoint.options.bodyLimit = none) :
    let capture := fun buffer =>
      (endpoint.buffering buffer).captureBody freshId (underOwnToken freshId request)
    (∀ buffer, (capture buffer).2 = none) ∧
    (capture false).1.withoutBody = (capture true).1.withoutBody ∧
    (firstBody (capture false).1).collect = (firstBody (capture true).1).collect := by
  intro capture
  obtain ⟨context, attached, _⟩ := underOwnToken_context freshId request
  have streams : ¬(endpoint.buffering false).Captures (underOwnToken freshId request) := by
    intro captures
    have buffers : endpoint.readsBody = true := captures.1
    rw [blind] at buffers
    contradiction
  have streamed : capture false = (underOwnToken freshId request, none) :=
    captureBody_of_not attached streams
  by_cases captures : (endpoint.buffering true).Captures (underOwnToken freshId request)
  · have here : (underOwnToken freshId request).body.refusal
        (endpoint.buffering true).options.bodyLimit = none := taken
    have captured := captureBody_eq freshId attached captures
    rw [here] at captured
    have kept : capture true = _ := captured
    have whole : (underOwnToken freshId request).body.collect =
        .ok (underOwnToken freshId request).body.chunks.flatten :=
      Body.collect_of_taken taken
    refine ⟨?_, ?_, ?_⟩
    · intro buffer
      cases buffer
      · rw [streamed]
      · rw [kept]
    · rw [streamed, kept]
      simp [Request.withoutBody, attached, Context.withoutBody]
    · -- the stream on one side, the same bytes in one piece on the other
      rw [streamed, kept, firstBody_eq, firstBody_eq, Request.captured, captures.2.2]
      exact whole.trans (Body.collect_ofBytes _).symm
  · -- a trace request, or a body that had been captured before: nothing is done on either side
    have kept : capture true = (underOwnToken freshId request, none) :=
      captureBody_of_not attached captures
    refine ⟨?_, by rw [streamed, kept], by rw [streamed, kept]⟩
    intro buffer
    cases buffer
    · rw [streamed]
    · rw [kept]

/-- Whether the body was captured shows in nothing but the body of the request that is started on. -/
theorem admitted_apart (setting : Producer.Setting) (blind : endpoint.readsBody = false)
    (taken : state.request.body.refusal endpoint.options.bodyLimit = none) :
    let admitted := fun buffer => (endpoint.buffering buffer).admitted setting state
    (∀ buffer, (endpoint.buffering buffer).Accepts setting state) ∧
    (admitted false).withoutBody = (admitted true).withoutBody ∧
    (firstBody (admitted false).request).collect = (firstBody (admitted true).request).collect := by
  let capture := fun buffer => (endpoint.buffering buffer).captureBody setting.freshId
    (underOwnToken setting.freshId state.request)
  obtain ⟨accepted, apart, body⟩ := capture_apart setting.freshId blind taken
  have policy : endpoint.options.policy.mustBuffer = false := by
    simp only [readsBody, Bool.or_eq_false_iff] at blind
    exact blind.1.1.1.1
  have spares : Proxy.SparesBody (endpoint.options.policy.applyToRequest setting.environment
      setting.freshId) := Proxy.applyToRequest_spares policy
  have logged : Policy.Logged.withoutBody ⟨(capture false).1, state.log⟩ =
      Policy.Logged.withoutBody ⟨(capture true).1, state.log⟩ :=
    congrArg (Policy.Logged.mk · state.log) apart
  have first (before : Policy.Logged) :
      firstBody (endpoint.options.policy.applyToRequest setting.environment setting.freshId
        before).1.request = firstBody before.request := by
    rw [firstBody_eq, firstBody_eq, Policy.applyToRequest_captured, spares.unchanged]
  refine ⟨accepted, (spares.apart logged).1, ?_⟩
  have admitted (buffer : Bool) : firstBody ((endpoint.buffering buffer).admitted setting state).request =
      firstBody (capture buffer).1 := first ⟨(capture buffer).1, state.log⟩
  simp only [admitted]
  exact body

theorem trace_respond (accepted : endpoint.Accepts setting state) :
    let started := endpoint.start setting (endpoint.admitted setting state)
    (endpoint.respond setting cancelAt state).2 =
      ⟨started.log, started.sent, started.finished cancelAt⟩ := by
  unfold respond admitted
  split
  · rename_i captured
    rw [captured]
    rfl
  · rename_i captured
    rw [Accepts, captured] at accepted
    contradiction

theorem serve_trace {State : Type} (endpoint : Endpoint) (setting : Producer.Setting)
    (cancelAt : Option Nat) (write : Writer State) (target : State) (state : Policy.Logged) :
    (endpoint.serve setting cancelAt write target state).2 =
      (endpoint.respond setting cancelAt state).2 := by
  unfold serve
  split
  all_goals
    rename_i responded
    rw [responded]

theorem trace_serve {State : Type} (cancelAt : Option Nat) (write : Writer State) (target : State)
    (accepted : endpoint.Accepts setting state) :
    let served := (endpoint.serve setting cancelAt write target state).2
    served.log = (endpoint.startAll setting (endpoint.admitted setting state)).1 ∧
      served.sent = (endpoint.calls setting state).filterMap id := by
  have started := start_eq_startAll endpoint setting (endpoint.admitted setting state)
  dsimp only
  rw [serve_trace, trace_respond accepted, calls, ← started, List.filterMap_map]
  exact ⟨rfl, rfl⟩

/-- Buffering is transparent. Where no template reads the body, a body that is not refused may be
captured or streamed: the client gets the same answer or the same error, the same is written down,
every producer makes the same call but for its body, and the first one the same call altogether. -/
theorem buffering_is_transparent {State : Type} (endpoint : Endpoint) (setting : Producer.Setting)
    (cancelAt : Option Nat) (write : Writer State) (target : State) (state : Policy.Logged)
    (blind : endpoint.readsBody = false) (backend : setting.backend.OfContent)
    (byContent : ∀ producer ∈ endpoint.producers, producer.OfContent)
    (taken : state.request.body.refusal endpoint.options.bodyLimit = none) :
    let served := fun buffer =>
      (endpoint.buffering buffer).serve setting cancelAt write target state
    let handled := fun buffer => (endpoint.buffering buffer).handle setting cancelAt state
    let calls := fun buffer => (endpoint.buffering buffer).calls setting state
    (served false).1 = (served true).1 ∧
    (handled false).1 = (handled true).1 ∧
    (served false).2.log = (served true).2.log ∧
    (∀ buffer, (served buffer).2.sent = (calls buffer).filterMap id) ∧
    (calls false).map (Option.map Request.withoutBody) =
      (calls true).map (Option.map Request.withoutBody) ∧
    (calls false).head?.map (Option.map Request.content) =
      (calls true).head?.map (Option.map Request.content) := by
  intro served handled calls
  obtain ⟨accepted, apart, body⟩ := admitted_apart setting blind taken
  obtain ⟨⟨⟨⟨policy, proxies⟩, requests⟩, redirect⟩, response⟩ :
      (((_ ∧ _) ∧ _) ∧ _) ∧ _ := by
    simpa only [readsBody, Bool.or_eq_false_iff] using blind
  have producers : endpoint.producers.any Producer.mustBuffer = false := by
    rw [Endpoint.producers, List.any_append, proxies, requests]
    rfl
  obtain ⟨logs, sent⟩ := startAll_alike backend byContent producers apart
  obtain ⟨content, reaction⟩ := first_alike backend byContent producers apart body
  have policed : (endpoint.buffering false).policed setting state =
      (endpoint.buffering true).policed setting state := by
    funext answer
    have changed := Policy.applyToResponse_congr setting.environment
      (Request.views_apart (congrArg Policy.Logged.request apart)) policy
    exact congrArg (fun change => (change answer).1) changed
  have answer : (endpoint.buffering false).answer setting cancelAt state =
      (endpoint.buffering true).answer setting cancelAt state := by
    have first := head_outcomes cancelAt reaction endpoint.producers
    apply reference_congr (congrArg Policy.Logged.request apart) redirect response
    · rw [length_results, length_results]
      rfl
    · rw [results_eq, results_eq]
      exact first
  have responded : ((endpoint.buffering false).respond setting cancelAt state).1 =
      ((endpoint.buffering true).respond setting cancelAt state).1 := by
    rw [respond_eq (accepted false), respond_eq (accepted true), policed, answer]
  have traces (buffer : Bool) := trace_serve cancelAt write target (accepted buffer)
  have called (buffer : Bool) : calls buffer = (endpoint.startAll setting
      ((endpoint.buffering buffer).admitted setting state)).2.map Work.sent := rfl
  refine ⟨?_, ?_, ?_, fun buffer => (traces buffer).2, ?_, ?_⟩
  · simp only [served, serve_eq_deliver, responded]
  · simp only [handled, handle_eq_respond, responded]
  · exact (traces false).1.trans (logs.trans (traces true).1.symm)
  · simpa [called, Function.comp_def] using sent
  · simpa [called, Function.comp_def] using content

def echo : Backend := fun request =>
  ⟨20, .settled (request.body.collect.map fun bytes => ⟨.ok, .empty, .ofBytes bytes⟩)⟩

def relay : Endpoint where
  options := { policy := { response := { set := [("x-route", "relay")] } } }
  proxies := [.proxy "app" { request := { set := [("x-path", "$\x7brequest.path\x7d")] } }]
  requests := []

def parcel : Request := { upload with body := ⟨[[1, 2], [], [3]], none⟩ }

theorem buffering_is_transparent_to_echo :
    relay.readsBody = false ∧ parcel.body.refusal relay.options.bodyLimit = none ∧
    ((relay.buffering false).handle ⟨echo, [], "r1"⟩ none ⟨parcel, []⟩).1 =
      ((relay.buffering true).handle ⟨echo, [], "r1"⟩ none ⟨parcel, []⟩).1 ∧
    (((relay.buffering true).handle ⟨echo, [], "r1"⟩ none ⟨parcel, []⟩).1.map Response.body).toOption =
      some (.ofBytes [1, 2, 3]) := by
  have content : Backend.OfContent echo := by
    intro left right same
    have body : left.body.collect = right.body.collect := congrArg (·.2.2.2) same
    simp only [echo, body]
  have blind : relay.readsBody = false := by decide
  have taken : parcel.body.refusal relay.options.bodyLimit = none := by decide
  have transparent := buffering_is_transparent relay ⟨echo, [], "r1"⟩ none record [] ⟨parcel, []⟩
    blind content (by simp [producers, relay, Producer.OfContent]) taken
  exact ⟨blind, taken, transparent.2.1, by decide +kernel⟩

end Endpoint

end Gateway
