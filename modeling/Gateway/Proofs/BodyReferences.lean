import Gateway.Proofs.Expressions
import Gateway.Proofs.Transparency
import Gateway.Proofs.Utf8

/-!
The search for references to the body is a search for words in the text of a template, while a
template reads the body through its expressions. The search misses nothing. A template in which it
finds no reference renders alike whatever the body is, and so everything that is made of such
templates behaves alike; and wherever a template stands that reads the body, at any place where one
is evaluated, the body is captured.
-/

namespace Gateway

namespace Template

variable {template : String}

/-- A template reads the body if one of its expressions tells scopes apart that differ in nothing
but the body. -/
def ReadsBody (template : String) : Prop :=
  ∃ name, .expression name ∈ parse template ∧
    ∃ left right : Scope, left.withoutBody = right.withoutBody ∧ left.value name ≠ right.value name

theorem ReadsBody.references (reads : ReadsBody template) : referencesBody template = true := by
  obtain ⟨name, member, left, right, apart, differs⟩ := reads
  by_contra silent
  rw [Bool.not_eq_true] at silent
  have blind (scope : Scope) : scope.withoutBody.value name = scope.value name :=
    Scope.value_of_blind silent (expression_within member)
  apply differs
  rw [← blind left, apart, blind right]

theorem ReadsBody.any_references {templates : List String} (reads : ReadsBody template)
    (member : template ∈ templates) : templates.any referencesBody = true :=
  List.any_eq_true.mpr ⟨template, member, reads.references⟩

end Template

open Template (ReadsBody)

inductive HeaderPolicy.Evaluates (policy : HeaderPolicy) (template : String) : Prop where
  | set (name : String) (listed : (name, template) ∈ policy.set)
  | add (name : String) (listed : (name, template) ∈ policy.add)

inductive Policy.Evaluates (policy : Policy) (template : String) : Prop where
  | request (evaluated : policy.request.Evaluates template)
  | response (evaluated : policy.response.Evaluates template)
  | url (configured : policy.url = some template)
  | websockets (block : WebsocketsBlock) (listed : block ∈ policy.websockets)
      (evaluated : block.request.Evaluates template)
  | logField (key : String) (listed : (key, template) ∈ policy.customLogFields)

inductive Redirect.Evaluates (redirect : Redirect) (template : String) : Prop where
  | url (written : redirect.url = template)
  | header (name : String) (listed : (name, template) ∈ redirect.headers)

inductive StaticResponse.Evaluates (answer : StaticResponse) (template : String) : Prop where
  | body (configured : answer.body = some template)
  | header (name : String) (listed : (name, template) ∈ answer.headers)

inductive SideRequest.Evaluates (side : SideRequest) (template : String) : Prop where
  | url (written : side.block.url = template)
  | header (name : String) (listed : (name, template) ∈ side.block.headers)
  | body (configured : side.block.body = some template)

/-- A producer with a template that reads the body. One that answers by itself says so. -/
inductive Producer.NeedsBody : Producer → Prop where
  | proxy (name : String) (policy : Policy) (template : String)
      (evaluated : policy.Evaluates template) (reads : ReadsBody template) :
      NeedsBody (.proxy name policy)
  | side (request : SideRequest) (template : String) (evaluated : request.Evaluates template)
      (reads : ReadsBody template) : NeedsBody (.side request)
  | inner (name : String) (work : Backend) : NeedsBody (.inner name true work)

inductive Endpoint.NeedsBody (endpoint : Endpoint) : Prop where
  | route (template : String) (evaluated : endpoint.options.policy.Evaluates template)
      (reads : ReadsBody template)
  | proxy (producer : Producer) (listed : producer ∈ endpoint.proxies) (needs : producer.NeedsBody)
  | request (producer : Producer) (listed : producer ∈ endpoint.requests)
      (needs : producer.NeedsBody)
  | redirect (redirect : Redirect) (configured : endpoint.options.redirect = some redirect)
      (template : String) (evaluated : redirect.Evaluates template) (reads : ReadsBody template)
  | response (answer : StaticResponse) (configured : endpoint.options.response = some answer)
      (template : String) (evaluated : answer.Evaluates template) (reads : ReadsBody template)

section

variable {template : String}

theorem HeaderPolicy.Evaluates.mem_templates {policy : HeaderPolicy}
    (evaluated : policy.Evaluates template) : template ∈ policy.templates := by
  rw [HeaderPolicy.templates, List.mem_append]
  cases evaluated with
  | set name listed => exact .inl (List.mem_map_of_mem listed)
  | add name listed => exact .inr (List.mem_map_of_mem listed)

theorem Policy.Evaluates.mem_templates {policy : Policy} (evaluated : policy.Evaluates template) :
    template ∈ policy.templates := by
  simp only [Policy.templates, List.mem_append, or_assoc]
  cases evaluated with
  | request evaluated => exact .inl evaluated.mem_templates
  | response evaluated => exact .inr (.inl evaluated.mem_templates)
  | url configured => exact .inr (.inr (.inl (by simp [configured])))
  | websockets block listed evaluated =>
      have inBlock : template ∈ policy.websockets.flatMap fun block => block.request.templates :=
        List.mem_flatMap.mpr ⟨block, listed, evaluated.mem_templates⟩
      exact .inr (.inr (.inr (.inl inBlock)))
  | logField key listed => exact .inr (.inr (.inr (.inr (List.mem_map_of_mem listed))))

theorem Policy.Evaluates.mustBuffer {policy : Policy} (evaluated : policy.Evaluates template)
    (reads : ReadsBody template) : policy.mustBuffer = true :=
  reads.any_references evaluated.mem_templates

theorem Redirect.Evaluates.mustBuffer {redirect : Redirect}
    (evaluated : redirect.Evaluates template) (reads : ReadsBody template) :
    redirect.mustBuffer = true := by
  rw [Redirect.mustBuffer, Bool.or_eq_true]
  cases evaluated with
  | url written => exact .inl (written ▸ reads.references)
  | header name listed => exact .inr (reads.any_references (List.mem_map_of_mem listed))

theorem StaticResponse.Evaluates.mustBuffer {answer : StaticResponse}
    (evaluated : answer.Evaluates template) (reads : ReadsBody template) :
    answer.mustBuffer = true := by
  rw [StaticResponse.mustBuffer, Bool.or_eq_true]
  cases evaluated with
  | body configured => exact .inl (by simp [configured, reads.references])
  | header name listed => exact .inr (reads.any_references (List.mem_map_of_mem listed))

theorem SideRequest.Evaluates.mustBuffer {side : SideRequest} (evaluated : side.Evaluates template)
    (reads : ReadsBody template) : side.mustBuffer = true := by
  rw [SideRequest.mustBuffer, Bool.or_eq_true, Bool.or_eq_true]
  cases evaluated with
  | url written => exact .inl (.inl (written ▸ reads.references))
  | header name listed => exact .inl (.inr (reads.any_references (List.mem_map_of_mem listed)))
  | body configured => exact .inr (by simp [configured, reads.references])

theorem Producer.NeedsBody.mustBuffer {producer : Producer} (needs : producer.NeedsBody) :
    producer.mustBuffer = true := by
  cases needs with
  | proxy _ _ _ evaluated reads => exact evaluated.mustBuffer reads
  | side _ _ evaluated reads => exact evaluated.mustBuffer reads
  | inner => rfl

theorem Endpoint.NeedsBody.buffers {endpoint : Endpoint} (needs : endpoint.NeedsBody) :
    endpoint.buffers = true := by
  rw [Endpoint.buffers, Bool.or_eq_true]
  right
  simp only [Endpoint.readsBody, Bool.or_eq_true, or_assoc]
  cases needs with
  | route _ evaluated reads => exact .inl (evaluated.mustBuffer reads)
  | proxy producer listed needs =>
      exact .inr (.inl (List.any_eq_true.mpr ⟨producer, listed, needs.mustBuffer⟩))
  | request producer listed needs =>
      exact .inr (.inr (.inl (List.any_eq_true.mpr ⟨producer, listed, needs.mustBuffer⟩)))
  | redirect redirect configured _ evaluated reads =>
      exact .inr (.inr (.inr (.inl (by simp [configured, evaluated.mustBuffer reads]))))
  | response answer configured _ evaluated reads =>
      exact .inr (.inr (.inr (.inr (by simp [configured, evaluated.mustBuffer reads]))))

end

namespace Proxy

variable {policy : Policy} {environment : Environment} {freshId : String}

/-- A stage that does the same to states that differ in nothing but the body, and hands the body on
as it is, streamed and captured. -/
structure BlindToBody (stage : Stage) : Prop where
  alike : ∀ left right : Policy.Logged, left.withoutBody = right.withoutBody →
    (stage left).1.withoutBody = (stage right).1.withoutBody ∧ (stage left).2 = (stage right).2
  body : ∀ state, (stage state).1.request.body = state.request.body
  captured : ∀ state, (stage state).1.request.captured = state.request.captured

theorem SparesBody.blind {stage : Stage} (spares : SparesBody stage)
    (keeps : Keeps Context.bufferedBody stage) : BlindToBody stage where
  alike _ _ apart := spares.apart apart
  body := spares.unchanged
  captured := keeps

end Proxy

structure Policy.BlindToBody (policy : Policy) : Prop where
  request : ∀ environment freshId,
    Proxy.BlindToBody (policy.applyToRequest environment freshId)
  upgrade : ∀ block ∈ policy.websockets, ∀ environment,
    Proxy.BlindToBody (Proxy.changeHeaders block environment)
  websockets : ∀ environment freshId,
    Proxy.BlindToBody (Proxy.applyWebsockets policy environment freshId)
  url : ∀ environment freshId, Proxy.BlindToBody (Proxy.applyUrl policy environment freshId)
  response : ∀ environment (left right : RequestView), left.withoutBody = right.withoutBody →
    policy.applyToResponse environment left = policy.applyToResponse environment right

theorem Policy.blindToBody {policy : Policy} (blind : policy.mustBuffer = false) :
    policy.BlindToBody where
  request environment freshId := (Proxy.applyToRequest_spares blind).blind
    (Proxy.applyToRequest_keeps Proxy.untouched_bufferedBody policy environment freshId)
  upgrade block listed environment := by
    have blocks := (Proxy.blind_parts blind).2.2.2.1
    rw [List.any_flatMap, List.any_eq_false] at blocks
    exact (Proxy.changeHeaders_spares (by simpa using blocks block listed)).blind fun _ => rfl
  websockets environment freshId := (Proxy.applyWebsockets_spares blind).blind
    (Proxy.applyWebsockets_keeps Proxy.untouched_bufferedBody (fun _ => rfl) (fun _ _ => rfl)
      policy environment freshId)
  url environment freshId := (Proxy.applyUrl_spares blind).blind
    (Proxy.applyUrl_keeps Proxy.untouched_bufferedBody policy environment freshId)
  response environment _ _ apart := Policy.applyToResponse_congr environment apart blind

/-- A side request that is the same for requests that differ in nothing but the body, which it hands
on to its context. -/
structure SideRequest.BlindToBody (side : SideRequest) : Prop where
  alike : ∀ environment (left right : Request), left.withoutBody = right.withoutBody →
    (side.prepare environment left).map (fun outbound => (outbound.withoutBody, outbound.body)) =
      (side.prepare environment right).map fun outbound => (outbound.withoutBody, outbound.body)
  captured : ∀ environment request outbound, side.prepare environment request = .ok outbound →
    outbound.captured = request.captured

theorem SideRequest.blindToBody {side : SideRequest} (blind : side.mustBuffer = false) :
    side.BlindToBody where
  alike environment _ _ apart := prepare_apart environment blind apart
  captured environment request outbound prepared := by
    obtain ⟨_, _, prepared⟩ := bind_eq_ok.mp prepared
    obtain ⟨_, _, prepared⟩ := bind_eq_ok.mp prepared
    obtain ⟨_, _, prepared⟩ := bind_eq_ok.mp prepared
    obtain ⟨_, _, prepared⟩ := bind_eq_ok.mp prepared
    rw [← Except.ok.inj prepared]
    rfl

/-- The search for references to the body misses none. A template without any renders alike under
scopes that differ in nothing but the body, policies and answers without any behave alike for such
requests, and an endpoint with a template that reads the body captures it. -/
theorem Endpoint.body_references_are_found :
    (∀ (template : String) (left right : Scope), referencesBody template = false →
      left.withoutBody = right.withoutBody → left.render template = right.render template) ∧
    (∀ policy : Policy, policy.mustBuffer = false → policy.BlindToBody) ∧
    (∀ (redirect : Redirect) (environment : Environment) (left right : RequestView),
      redirect.mustBuffer = false → left.withoutBody = right.withoutBody →
        redirect.toResponse environment left = redirect.toResponse environment right) ∧
    (∀ (answer : StaticResponse) (environment : Environment) (left right : RequestView),
      answer.mustBuffer = false → left.withoutBody = right.withoutBody →
        answer.toResponse environment left = answer.toResponse environment right) ∧
    (∀ side : SideRequest, side.mustBuffer = false → side.BlindToBody) ∧
    (∀ endpoint : Endpoint, endpoint.NeedsBody → endpoint.buffers = true) := by
  refine ⟨?_, ?_, ?_, ?_, ?_, ?_⟩
  · intro template left right blind apart
    have single : [template].any referencesBody = false := by simpa using blind
    exact Scope.agree_of_apart apart single template List.mem_cons_self
  · exact fun _ blind => Policy.blindToBody blind
  · exact fun _ _ _ _ blind apart => Redirect.toResponse_apart blind apart
  · exact fun _ _ _ _ blind apart => StaticResponse.toResponse_apart blind apart
  · exact fun _ blind => SideRequest.blindToBody blind
  · exact fun _ needs => needs.buffers

def greeting : Redirect where
  url := "/"
  headers := [("x-user", "Hello $\x7b request.body \x7d")]

def soliloquy : Redirect where
  url := "/"
  headers := [("x-user", "json_body")]

def viewOf (body : Option Bytes) : RequestView :=
  ⟨"GET", "/", "/", [], .empty, "", body⟩

/-- A body is captured for the header of a redirect that reads it. The same header without the
reference does not depend on it. -/
theorem Endpoint.body_references_are_found_greeting :
    Endpoint.buffers ⟨{ redirect := some greeting }, [], []⟩ = true ∧
      soliloquy.toResponse [] (viewOf none) =
        soliloquy.toResponse [] (viewOf (some (Utf8.encode "ada"))) := by
  obtain ⟨_, _, redirects, _, _, endpoints⟩ := Endpoint.body_references_are_found
  have reads : ReadsBody "Hello $\x7b request.body \x7d" := by
    have cut := @Template.segments_expression "Hello ".toList " request.body ".toList (by decide)
      (by decide) []
    have parsed : Template.parse "Hello $\x7b request.body \x7d" = _ := cut
    refine ⟨"request.body", ?_, .ofRequest [] (viewOf none),
      .ofRequest [] (viewOf (some (Utf8.encode "ada"))), rfl, ?_⟩
    · rw [parsed]
      decide
    · intro same
      have texts : "" = Utf8.decodeLossy (Utf8.encode "ada") := Except.ok.inj same
      rw [Utf8.decodeLossy_encode] at texts
      exact absurd texts (by decide)
  have header : greeting.Evaluates "Hello $\x7b request.body \x7d" :=
    .header "x-user" List.mem_cons_self
  exact ⟨endpoints _ (.redirect greeting rfl _ header reads),
    redirects soliloquy [] _ _ (by decide) rfl⟩

end Gateway
