import Gateway.Proofs.Forwarding

/-!
What no stage of a proxy touches. Up to the choice of the destination a request keeps its target,
and through all stages it keeps the id of its context, and the fields that no stage writes, also
where a stage fails and hands on what has become of the request by then.
-/

namespace Gateway

namespace Request

variable {before middle after request : Request}

theorem withContext_of_isSome (attached : request.context.isSome = true) (freshId : String) :
    request.withContext freshId = request := by
  obtain ⟨context, found⟩ := Option.isSome_iff_exists.mp attached
  cases request
  simp_all [withContext, contextOr]

def attachedId (request : Request) : Option String := request.context.map Context.requestId

/-- The same id is attached to both requests, if one is attached to the first. -/
def SameId (before after : Request) : Prop :=
  before.context.isSome = true → after.attachedId = before.attachedId

namespace SameId

theorem refl (request : Request) : SameId request request := fun _ => rfl

theorem isSome (same : SameId before after) (attached : before.context.isSome = true) :
    after.context.isSome = true := by
  have equal := same attached
  obtain ⟨context, found⟩ := Option.isSome_iff_exists.mp attached
  rw [attachedId, attachedId, found] at equal
  obtain ⟨other, found, _⟩ := Option.map_eq_some_iff.mp equal
  rw [found]
  rfl

theorem trans (first : SameId before middle) (second : SameId middle after) :
    SameId before after := by
  intro attached
  rw [second (first.isSome attached), first attached]

theorem of_context (same : after.context = before.context) : SameId before after := by
  intro _
  rw [attachedId, attachedId, same]

end SameId

theorem withContext_sameId (request : Request) (freshId : String) :
    SameId request (request.withContext freshId) := by
  intro attached
  obtain ⟨context, found⟩ := Option.isSome_iff_exists.mp attached
  simp [attachedId, withContext, contextOr, found]

theorem mapContext_sameId (request : Request) {change : Context → Context}
    (keeps : ∀ context, (change context).requestId = context.requestId) :
    SameId request (request.mapContext change) := by
  intro _
  rw [attachedId, mapContext, Option.map_map]
  exact congrArg (request.context.map ·) (funext keeps)

structure Follows (after before : Request) : Prop where
  uri : after.uri = before.uri
  sameId : SameId before after

namespace Follows

theorem refl (request : Request) : Follows request request := ⟨rfl, .refl request⟩

theorem trans (second : Follows after middle) (first : Follows middle before) :
    Follows after before :=
  ⟨second.uri.trans first.uri, first.sameId.trans second.sameId⟩

theorem withContext (request : Request) (freshId : String) :
    Follows (request.withContext freshId) request :=
  ⟨rfl, withContext_sameId request freshId⟩

theorem withHeaders (request : Request) (headers : HeaderMap) :
    Follows { request with headers } request :=
  ⟨rfl, .of_context rfl⟩

theorem changeContext (request : Request) (freshId : String) {change : Context → Context}
    (keeps : ∀ context, (change context).requestId = context.requestId) :
    Follows ((request.withContext freshId).mapContext change) request :=
  ⟨rfl, (withContext_sameId request freshId).trans (mapContext_sameId _ keeps)⟩

end Follows

end Request

namespace Proxy

open Request (Follows SameId)

variable {policy : Policy} {environment : Environment} {freshId : String} {state : Policy.Logged}

theorem changeRequest_follows (changes : HeaderPolicy) (environment : Environment)
    (request : Request) :
    Follows (Policy.changeRequest changes environment request).1 request :=
  .withHeaders request _

theorem recordLogFields_follows (policy : Policy) (environment : Environment) (freshId : String)
    (state : Policy.Logged) :
    Follows (policy.recordLogFields environment freshId state).1.request state.request := by
  unfold Policy.recordLogFields
  split
  · exact .refl _
  · exact .withContext _ _

/-- A relation between requests that holds across every change of headers, and across the context
that a request without one is given. -/
structure Framed (related : Request → Request → Prop) : Prop where
  refl : ∀ request, related request request
  trans : ∀ {before middle after}, related before middle → related middle after →
    related before after
  headers : ∀ (request : Request) headers, related request { request with headers }
  attached : ∀ (request : Request) freshId, related request (request.withContext freshId)

/-- A relation that holds across a mark in the context, which is attached first. -/
def Spans (related : Request → Request → Prop) (mark : Context → Context) : Prop :=
  ∀ (request : Request) freshId, related request ((request.withContext freshId).mapContext mark)

/-- A stage across which a relation holds, whether it fails or not. -/
def Upholds (related : Request → Request → Prop) (stage : Stage) : Prop :=
  ∀ state, related state.request (stage state).1.request

namespace Framed

variable {related : Request → Request → Prop}

theorem andThen (framed : Framed related) {first second : Stage} (one : Upholds related first)
    (two : Upholds related second) : Upholds related (andThen first second) := by
  intro state
  have before := one state
  unfold Proxy.andThen
  split
  · rename_i done
    rw [done] at before
    exact framed.trans before (two _)
  · rename_i done
    rw [done] at before
    exact before

theorem applyToRequest (framed : Framed related) (policy : Policy) (environment : Environment)
    (freshId : String) : Upholds related (policy.applyToRequest environment freshId) := by
  intro state
  have changed := framed.headers state.request (policy.request.apply
    (.ofRequest environment (.of state.request)) state.request.headers).1
  unfold Policy.applyToRequest Policy.changeRequest
  dsimp only
  split
  · rename_i done
    rwa [(Prod.mk.inj done).1] at changed
  · rename_i done
    rw [(Prod.mk.inj done).1] at changed
    unfold Policy.recordLogFields
    split
    · exact changed
    · exact framed.trans changed (framed.attached _ freshId)

variable (timed : ∀ timeout,
  Spans related fun context => { context with websocketsTimeout := some timeout })

include timed

theorem readTimeout (framed : Framed related) (block : WebsocketsBlock) (freshId : String) :
    Upholds related (readTimeout block freshId) := by
  intro state
  unfold Proxy.readTimeout
  split
  · exact framed.refl _
  · split
    · exact framed.refl _
    · exact timed _ state.request freshId

variable (permits : Spans related fun context => { context with allowWebsockets := true })

include permits

theorem permitUpgrade (framed : Framed related) (block : WebsocketsBlock)
    (environment : Environment) (freshId : String) :
    Upholds related (permitUpgrade block environment freshId) := by
  intro state
  have changes : Upholds related (changeHeaders block environment) :=
    fun state => framed.headers state.request _
  have prepares := framed.andThen changes (framed.readTimeout timed block freshId)
  have permitted := permits state.request freshId
  unfold Proxy.permitUpgrade
  dsimp only
  split
  · exact framed.trans permitted (prepares ⟨_, state.log⟩)
  · exact permitted

theorem applyWebsockets (framed : Framed related) (policy : Policy) (environment : Environment)
    (freshId : String) : Upholds related (applyWebsockets policy environment freshId) := by
  intro state
  unfold Proxy.applyWebsockets
  split
  · exact framed.refl _
  · split
    · exact framed.refl _
    · split
      · exact framed.permitUpgrade timed permits _ environment freshId state
      · exact framed.refl _

omit timed permits

variable (aimed : ∀ (request : Request) uri headers, related request { request with uri, headers })

include aimed

theorem pointTo (framed : Framed related) (target : String) :
    Upholds related (pointTo target) := by
  intro state
  unfold Proxy.pointTo
  split
  · rename_i request redirected
    obtain ⟨address, _, rest⟩ := bind_eq_ok.mp redirected
    obtain ⟨uri, _, rest⟩ := bind_eq_ok.mp rest
    obtain ⟨host, _, written⟩ := bind_eq_ok.mp rest
    rw [← Except.ok.inj written]
    exact aimed state.request uri _
  · exact framed.refl _

theorem applyUrl (framed : Framed related)
    (addressed : ∀ url, Spans related fun context => { context with urlAttribute := some url })
    (policy : Policy) (environment : Environment) (freshId : String) :
    Upholds related (applyUrl policy environment freshId) := by
  intro state
  unfold Proxy.applyUrl
  split
  · unfold pointToUrl
    dsimp only
    split
    · exact framed.refl _
    · split
      · exact framed.refl _
      · rename_i url _ _
        exact framed.trans (addressed url state.request freshId)
          (framed.pointTo aimed url ⟨_, state.log⟩)
  · exact framed.pointTo aimed _ state
  · exact framed.refl _

omit aimed

theorem direct (framed : Framed related) (freshId : String) : Upholds related (direct freshId) :=
  fun state => framed.trans (framed.headers state.request (strip state.request.headers))
    (framed.attached _ freshId)

end Framed

theorem follows_framed : Framed fun before after => Follows after before where
  refl := .refl
  trans first second := second.trans first
  headers := .withHeaders
  attached := .withContext

theorem sameId_framed : Framed SameId where
  refl := .refl
  trans := SameId.trans
  headers _ _ := .of_context rfl
  attached := Request.withContext_sameId

theorem applyToRequest_follows (policy : Policy) (environment : Environment) (freshId : String)
    (state : Policy.Logged) :
    Follows (policy.applyToRequest environment freshId state).1.request state.request :=
  follows_framed.applyToRequest policy environment freshId state

def Leaves (stage : Stage) : Prop := ∀ state, Follows (stage state).1.request state.request

theorem applyWebsockets_leaves (policy : Policy) (environment : Environment) (freshId : String) :
    Leaves (applyWebsockets policy environment freshId) :=
  follows_framed.applyWebsockets
    (fun _ request freshId => .changeContext request freshId fun _ => rfl)
    (fun request freshId => .changeContext request freshId fun _ => rfl) policy environment freshId

theorem direct_leaves (freshId : String) : Leaves (direct freshId) :=
  follows_framed.direct freshId

def KeepsId (stage : Stage) : Prop := ∀ state, SameId state.request (stage state).1.request

theorem Leaves.keepsId {stage : Stage} (leaves : Leaves stage) : KeepsId stage :=
  fun state => (leaves state).sameId

theorem KeepsId.andThen {first second : Stage} (one : KeepsId first) (two : KeepsId second) :
    KeepsId (andThen first second) :=
  sameId_framed.andThen one two

theorem pointTo_keepsId (target : String) : KeepsId (pointTo target) :=
  sameId_framed.pointTo (fun _ _ _ => .of_context rfl) target

theorem applyUrl_keepsId (policy : Policy) (environment : Environment) (freshId : String) :
    KeepsId (applyUrl policy environment freshId) :=
  sameId_framed.applyUrl (fun _ _ _ => .of_context rfl)
    (fun _ request freshId => (Follows.changeContext request freshId fun _ => rfl).sameId)
    policy environment freshId

/-- The request that the destination is chosen for, as the policy and the block for upgrades have
left it. -/
def beforeAiming (policy : Policy) (environment : Environment) (freshId : String)
    (state : Policy.Logged) : Policy.Logged :=
  (applyWebsockets policy environment freshId
    (policy.applyToRequest environment freshId state).1).1

theorem beforeAiming_follows (policy : Policy) (environment : Environment) (freshId : String)
    (state : Policy.Logged) :
    Follows (beforeAiming policy environment freshId state).request state.request :=
  (applyWebsockets_leaves policy environment freshId _).trans
    (applyToRequest_follows policy environment freshId state)

/-- However far a request comes, it keeps its id. -/
theorem prepare_keepsId (policy : Policy) (environment : Environment) (freshId : String) :
    KeepsId (prepare policy environment freshId) := by
  have policed : Leaves (policy.applyToRequest environment freshId) :=
    applyToRequest_follows policy environment freshId
  apply policed.keepsId.andThen
  apply (applyWebsockets_leaves policy environment freshId).keepsId.andThen
  exact (applyUrl_keepsId policy environment freshId).andThen (direct_leaves freshId).keepsId

section

variable {Value : Type} {field : Context → Option Value}

/-- A field of contexts that is empty in a new one and that the choice of a destination leaves
alone. -/
structure Untouched (field : Context → Option Value) : Prop where
  new : ∀ id, field (.new id) = none
  url : ∀ context url, field { context with urlAttribute := some url } = field context

def Keeps (field : Context → Option Value) (stage : Stage) : Prop :=
  ∀ state, (stage state).1.request.context.bind field = state.request.context.bind field

theorem Untouched.withContext (untouched : Untouched field) (request : Request)
    (freshId : String) : (request.withContext freshId).context.bind field =
      request.context.bind field := by
  cases attached : request.context <;>
    simp [Request.withContext, Request.contextOr, attached, untouched.new]

theorem Untouched.mark (untouched : Untouched field) (request : Request) (freshId : String)
    {change : Context → Context} (apart : ∀ context, field (change context) = field context) :
    ((request.withContext freshId).mapContext change).context.bind field =
      request.context.bind field := by
  rw [← untouched.withContext request freshId]
  simp [Request.mapContext, Request.withContext, apart]

theorem Untouched.framed (untouched : Untouched field) :
    Framed fun before after => after.context.bind field = before.context.bind field where
  refl _ := rfl
  trans first second := second.trans first
  headers _ _ := rfl
  attached := untouched.withContext

theorem Keeps.andThen (untouched : Untouched field) {first second : Stage} (one : Keeps field first)
    (two : Keeps field second) : Keeps field (andThen first second) :=
  untouched.framed.andThen one two

theorem applyToRequest_keeps (untouched : Untouched field) (policy : Policy)
    (environment : Environment) (freshId : String) :
    Keeps field (policy.applyToRequest environment freshId) :=
  untouched.framed.applyToRequest policy environment freshId

theorem applyWebsockets_keeps (untouched : Untouched field)
    (allows : ∀ context, field { context with allowWebsockets := true } = field context)
    (times : ∀ context timeout,
      field { context with websocketsTimeout := some timeout } = field context)
    (policy : Policy) (environment : Environment) (freshId : String) :
    Keeps field (applyWebsockets policy environment freshId) :=
  untouched.framed.applyWebsockets
    (fun timeout request freshId => untouched.mark request freshId (times · timeout))
    (fun request freshId => untouched.mark request freshId allows) policy environment freshId

theorem applyUrl_keeps (untouched : Untouched field) (policy : Policy) (environment : Environment)
    (freshId : String) : Keeps field (applyUrl policy environment freshId) :=
  untouched.framed.applyUrl (fun _ _ _ => rfl)
    (fun url request freshId => untouched.mark request freshId (untouched.url · url))
    policy environment freshId

theorem direct_keeps (untouched : Untouched field) (freshId : String) :
    Keeps field (direct freshId) :=
  untouched.framed.direct freshId

end

end Proxy

end Gateway
