import Gateway.Proofs.Capture
import Gateway.Proofs.References
import Gateway.Proofs.Stages

/-!
Capturing a body shows nowhere. Policies, proxies and side requests whose templates do not speak of
the body neither read nor change it, so what backends are sent is the same whether the body was
captured or is streamed, up to the bodies behind the first producer, which no answer depends on.
-/

namespace Gateway

def Context.withoutBody (context : Context) : Context := { context with bufferedBody := none }

namespace Request

variable {request : Request}

def withoutBody (request : Request) : Request :=
  { request with body := .empty, context := request.context.map Context.withoutBody }

theorem view_withoutBody (request : Request) :
    RequestView.of request.withoutBody = (RequestView.of request).withoutBody := by
  cases attached : request.context <;> simp [RequestView.of, RequestView.withoutBody, withoutBody,
    attached, Context.withoutBody]

theorem scope_withoutBody (environment : Environment) (request : Request) :
    Scope.ofRequest environment (RequestView.of request.withoutBody) =
      (Scope.ofRequest environment (RequestView.of request)).withoutBody := by
  rw [view_withoutBody]
  rfl

theorem withoutBody_withContext (request : Request) (freshId : String) :
    request.withoutBody.withContext freshId = (request.withContext freshId).withoutBody := by
  cases attached : request.context <;> simp [withContext, contextOr, withoutBody, attached,
    Context.new, Context.withoutBody, suppliedId]

theorem withoutBody_mapContext (request : Request) (freshId : String) (change : Context → Context)
    (apart : ∀ context, change context.withoutBody = (change context).withoutBody) :
    (request.withoutBody.withContext freshId).mapContext change =
      ((request.withContext freshId).mapContext change).withoutBody := by
  rw [withoutBody_withContext]
  simp [mapContext, withContext, withoutBody, apart]

end Request

def Policy.Logged.withoutBody (state : Policy.Logged) : Policy.Logged :=
  { state with request := state.request.withoutBody }

namespace Proxy

theorem andThen_map {first second : Stage} {change : Policy.Logged → Policy.Logged}
    {state : Policy.Logged} (one : first (change state) = (change (first state).1, (first state).2))
    (two : second (change (first state).1) =
      (change (second (first state).1).1, (second (first state).1).2)) :
    andThen first second (change state) =
      (change (andThen first second state).1, (andThen first second state).2) := by
  unfold andThen
  rw [one]
  generalize first state = done at two ⊢
  obtain ⟨middle, failure⟩ := done
  cases failure with
  | none => exact two
  | some error => rfl

/-- A stage that neither reads the body of a request nor changes it. -/
structure SparesBody (stage : Stage) : Prop where
  unread : ∀ state, stage state.withoutBody = ((stage state).1.withoutBody, (stage state).2)
  unchanged : ∀ state, (stage state).1.request.body = state.request.body

theorem body_framed : Framed fun before after => after.body = before.body where
  refl _ := rfl
  trans first second := second.trans first
  headers _ _ := rfl
  attached _ _ := rfl

variable {policy : Policy} {environment : Environment} {freshId : String}

theorem SparesBody.andThen {first second : Stage} (before : SparesBody first)
    (after : SparesBody second) : SparesBody (andThen first second) where
  unread state := andThen_map (before.unread state) (after.unread _)
  unchanged := body_framed.andThen before.unchanged after.unchanged

theorem changeRequest_unread {changes : HeaderPolicy} (environment : Environment)
    (blind : changes.templates.any referencesBody = false) (request : Request) :
    Policy.changeRequest changes environment request.withoutBody =
      ((Policy.changeRequest changes environment request).1.withoutBody,
        (Policy.changeRequest changes environment request).2) := by
  unfold Policy.changeRequest
  dsimp only
  rw [Request.scope_withoutBody, HeaderPolicy.apply_congr (Scope.agree_withoutBody _ blind)]
  rfl

theorem blind_parts (blind : policy.mustBuffer = false) :
    policy.request.templates.any referencesBody = false ∧
      policy.response.templates.any referencesBody = false ∧
      policy.url.toList.any referencesBody = false ∧
      (policy.websockets.flatMap fun block => block.request.templates).any referencesBody = false ∧
      (policy.customLogFields.map Prod.snd).any referencesBody = false := by
  simpa only [Policy.mustBuffer, Policy.templates, List.any_append, Bool.or_eq_false_iff,
    and_assoc] using blind

theorem recordLogFields_spares (blind : policy.mustBuffer = false) :
    SparesBody (policy.recordLogFields environment freshId) where
  unread state := by
    obtain ⟨_, _, _, _, fields⟩ := blind_parts blind
    unfold Policy.recordLogFields
    split
    · rfl
    · have rendered : Scope.ofRequest environment (RequestView.of state.withoutBody.request) =
          (Scope.ofRequest environment (RequestView.of state.request)).withoutBody :=
        Request.scope_withoutBody ..
      dsimp only
      rw [rendered, Policy.recordFields_congr (Scope.agree_withoutBody _ fields)]
      simp only [Policy.Logged.withoutBody, Request.withoutBody_withContext]
  unchanged state := by
    unfold Policy.recordLogFields
    split <;> rfl

theorem changeHeaders_spares {block : WebsocketsBlock}
    (blind : block.request.templates.any referencesBody = false) :
    SparesBody (changeHeaders block environment) where
  unread state := by
    have changed := changeRequest_unread environment blind state.request
    have request : state.withoutBody.request = state.request.withoutBody := rfl
    unfold changeHeaders
    rw [request, changed]
    rfl
  unchanged state := rfl

theorem applyToRequest_spares (blind : policy.mustBuffer = false) :
    SparesBody (policy.applyToRequest environment freshId) := by
  have stages : policy.applyToRequest environment freshId =
      andThen (changeHeaders { request := policy.request } environment)
        (policy.recordLogFields environment freshId) := by
    funext state
    unfold Policy.applyToRequest andThen changeHeaders
    rcases Policy.changeRequest policy.request environment state.request with ⟨after, _ | error⟩ <;>
      rfl
  rw [stages]
  exact (changeHeaders_spares (blind_parts blind).1).andThen (recordLogFields_spares blind)

def marks (freshId : String) (change : Context → Context) : Stage := fun state =>
  ({ state with request := (state.request.withContext freshId).mapContext change }, none)

theorem marks_spares (freshId : String) (change : Context → Context)
    (apart : ∀ context, change context.withoutBody = (change context).withoutBody) :
    SparesBody (marks freshId change) where
  unread state := by
    have marked := state.request.withoutBody_mapContext freshId change apart
    exact congrArg (fun request => (Policy.Logged.mk request state.log, none)) marked
  unchanged state := rfl

theorem skips_spares : SparesBody fun state => (state, none) := ⟨fun _ => rfl, fun _ => rfl⟩

theorem fails_spares (error : GatewayError) : SparesBody fun state => (state, some error) :=
  ⟨fun _ => rfl, fun _ => rfl⟩

theorem readTimeout_spares (block : WebsocketsBlock) : SparesBody (readTimeout block freshId) := by
  unfold readTimeout
  cases timeoutText block with
  | none => exact skips_spares
  | some text =>
      dsimp only
      cases Duration.parse text with
      | error message => exact fails_spares _
      | ok timeout =>
          exact marks_spares freshId
            (fun context => { context with websocketsTimeout := some timeout }) fun _ => rfl

theorem SparesBody.ifUpgrade {stage : Stage} (spares : SparesBody stage) :
    SparesBody fun state => if state.request.isUpgrade then stage state else (state, none) where
  unread state := by
    have asked : state.withoutBody.request.isUpgrade = state.request.isUpgrade := rfl
    rw [asked]
    split
    · exact spares.unread state
    · rfl
  unchanged state := by
    split
    · exact spares.unchanged state
    · rfl

theorem permitUpgrade_spares {block : WebsocketsBlock}
    (blind : block.request.templates.any referencesBody = false) :
    SparesBody (permitUpgrade block environment freshId) := by
  have marked := marks_spares freshId (fun context => { context with allowWebsockets := true })
    fun _ => rfl
  exact marked.andThen ((changeHeaders_spares blind).andThen (readTimeout_spares block)).ifUpgrade

theorem applyWebsockets_spares (blind : policy.mustBuffer = false) :
    SparesBody (applyWebsockets policy environment freshId) := by
  obtain ⟨_, _, _, blocks, _⟩ := blind_parts blind
  unfold applyWebsockets
  by_cases many : 1 < policy.websockets.length
  · simp only [if_pos many]
    exact fails_spares _
  · by_cases origins : 1 < policy.backends.length
    · simp only [if_neg many, if_pos origins]
      exact fails_spares _
    · simp only [if_neg many, if_neg origins]
      cases listed : policy.websockets with
      | nil => exact skips_spares
      | cons block rest =>
          rw [listed, List.flatMap_cons, List.any_append, Bool.or_eq_false_iff] at blocks
          exact permitUpgrade_spares blocks.1

/-- Pointing a request at a destination looks at its target only, and changes no more than that and
the headers. -/
theorem redirect_map {request : Request} {change : Request → Request} (target : String)
    (aimed : (change request).uri = request.uri)
    (apart : ∀ uri host,
      { change request with uri, headers := (change request).headers.insert HeaderName.host host } =
        change { request with uri, headers := request.headers.insert HeaderName.host host }) :
    redirect (change request) target = (redirect request target).map change := by
  unfold redirect
  cases readDestination target with
  | error error => rfl
  | ok address =>
      simp only [bind, Except.bind, aimed, apart]
      cases aim request.uri address with
      | error error => rfl
      | ok uri =>
          simp only
          cases hostValue address.authority <;> rfl

theorem pointTo_spares (target : String) : SparesBody (pointTo target) := by
  have redirected (request : Request) :
      redirect request.withoutBody target = (redirect request target).map Request.withoutBody :=
    redirect_map target rfl fun _ _ => rfl
  constructor
  · intro state
    have request : state.withoutBody.request = state.request.withoutBody := rfl
    unfold pointTo
    rw [request, redirected]
    cases redirect state.request target <;> rfl
  · exact body_framed.pointTo (fun _ _ _ => rfl) target

theorem pointToUrl_spares {template : String} (blind : referencesBody template = false) :
    SparesBody (pointToUrl template environment freshId) := by
  -- what the template renders to is the same on both sides, and so the stage is
  have points (url : String) := (marks_spares freshId
    (fun context => { context with urlAttribute := some url }) fun _ => rfl).andThen
      (pointTo_spares url)
  constructor
  · intro state
    have request : state.withoutBody.request = state.request.withoutBody := rfl
    unfold pointToUrl
    rw [request, Request.scope_withoutBody]
    dsimp only
    rw [Scope.render_withoutBody blind]
    split
    · rfl
    · rename_i url _
      split
      · rfl
      · exact (points url).unread state
  · intro state
    unfold pointToUrl
    dsimp only
    split
    · rfl
    · rename_i url _
      split
      · rfl
      · exact (points url).unchanged state

theorem applyUrl_spares (blind : policy.mustBuffer = false) :
    SparesBody (applyUrl policy environment freshId) := by
  obtain ⟨_, _, target, _, _⟩ := blind_parts blind
  unfold applyUrl
  cases configured : policy.url with
  | some template =>
      rw [configured] at target
      exact pointToUrl_spares (by simpa using target)
  | none =>
      cases policy.backends with
      | nil => exact skips_spares
      | cons origin rest => exact pointTo_spares origin

theorem direct_spares : SparesBody (direct freshId) where
  unread state := by
    have stripped : ({ state.request.withoutBody with
          headers := strip state.request.headers } : Request).withContext freshId =
        (({ state.request with headers := strip state.request.headers } : Request).withContext
          freshId).withoutBody :=
      Request.withoutBody_withContext { state.request with headers := strip state.request.headers }
        freshId
    exact congrArg (fun request => (Policy.Logged.mk request state.log, none)) stripped
  unchanged state := rfl

/-- A proxy whose templates do not speak of the body passes it on unread. -/
theorem prepare_spares (blind : policy.mustBuffer = false) :
    SparesBody (prepare policy environment freshId) :=
  (applyToRequest_spares blind).andThen
    ((applyWebsockets_spares blind).andThen ((applyUrl_spares blind).andThen direct_spares))

end Proxy

end Gateway
