import Gateway.Proofs.Serving

/-!
Capturing the body of a request. However its bytes are cut into chunks, a body is taken as a whole
or refused, and a refused body goes nowhere: the error handlers of the route answer, or its error
page, and nothing else that the route has is asked.
-/

namespace Gateway

namespace Body

def length (body : Body) : Nat := body.chunks.flatten.length

/-- Why a body is refused under a limit: it is too long, or else its stream breaks off. -/
def refusal (body : Body) (limit : Nat) : Option GatewayError :=
  if limit < body.length then some (.bodySizeExceeded limit) else body.failure

theorem readWithin_eq (limit : Nat) (failure : Option GatewayError) (remaining : Nat)
    (chunks : List Bytes) :
    readWithin limit failure remaining chunks =
      if remaining < chunks.flatten.length then .error (.bodySizeExceeded limit)
      else (Body.mk chunks failure).collect := by
  induction chunks generalizing remaining with
  | nil => cases failure <;> simp [readWithin, collect]
  | cons chunk rest induction =>
      unfold readWithin
      rw [List.flatten_cons, List.length_append]
      by_cases exceeds : remaining < chunk.length
      · rw [if_pos exceeds, if_pos (by omega)]
      · rw [if_neg exceeds, induction]
        by_cases later : remaining - chunk.length < rest.flatten.length
        · rw [if_pos later, if_pos (by omega)]
          rfl
        · rw [if_neg later, if_neg (by omega)]
          cases failure <;> simp [collect, Except.map]

/-- How the bytes are cut into chunks does not count, nor does where the limit is passed. -/
theorem collectWithin_eq (body : Body) (limit : Nat) :
    body.collectWithin limit =
      match body.refusal limit with
      | some error => .error error
      | none => .ok body.chunks.flatten := by
  rw [collectWithin, readWithin_eq, refusal, length]
  split
  · rfl
  · cases body.failure <;> rfl

theorem collect_ofBytes (bytes : Bytes) : (ofBytes bytes).collect = .ok bytes := by
  simp [ofBytes, collect]

theorem collect_of_taken {body : Body} {limit : Nat} (taken : body.refusal limit = none) :
    body.collect = .ok body.chunks.flatten := by
  unfold refusal at taken
  split at taken
  · contradiction
  · rw [collect, taken]

end Body

namespace Endpoint

variable {endpoint : Endpoint} {freshId : String} {request : Request} {context : Context}

def Captures (endpoint : Endpoint) (request : Request) : Prop :=
  endpoint.buffers = true ∧ request.method ≠ Method.trace ∧
    request.context.bind Context.bufferedBody = none

theorem captureBody_of_not (attached : request.context = some context)
    (idle : ¬endpoint.Captures request) :
    endpoint.captureBody freshId request = (request, none) := by
  have same : request.withContext freshId = request := by
    cases request
    simp_all [Request.withContext, Request.contextOr]
  unfold captureBody
  dsimp only
  rw [same]
  split
  · rename_i wanted
    rw [Bool.and_eq_true, decide_eq_true_eq] at wanted
    have captured : (request.context.bind Context.bufferedBody).isSome = true := by
      rw [Option.isSome_iff_ne_none]
      exact fun missing => idle ⟨wanted.1, wanted.2, missing⟩
    rw [if_pos captured]
  · rfl

/-- A body is taken, so that it can be replayed, or refused, and then it is used up. -/
theorem captureBody_eq (freshId : String) (attached : request.context = some context)
    (captures : endpoint.Captures request) :
    endpoint.captureBody freshId request =
      match request.body.refusal endpoint.options.bodyLimit with
      | some error => ({ request with body := .empty }, some error)
      | none =>
          ({ request with
              body := .ofBytes request.body.chunks.flatten
              context := some { context with
                bufferedBody := some request.body.chunks.flatten } }, none) := by
  obtain ⟨buffers, method, uncaptured⟩ := captures
  have same : request.withContext freshId = request := by
    cases request
    simp_all [Request.withContext, Request.contextOr]
  unfold captureBody
  dsimp only
  rw [same, if_pos (by simp [buffers, method]), if_neg (by simp [uncaptured]),
    Body.collectWithin_eq]
  cases request.body.refusal endpoint.options.bodyLimit with
  | some error => rfl
  | none => simp [Request.mapContext, attached]

theorem underOwnToken_context (freshId : String) (request : Request) :
    ∃ context, (underOwnToken freshId request).context = some context ∧
      context.bufferedBody = request.context.bind Context.bufferedBody := by
  refine ⟨_, rfl, ?_⟩
  cases held : request.context <;> simp [Request.contextOr, held, Context.new]

theorem captures_underOwnToken :
    endpoint.Captures (underOwnToken freshId request) ↔ endpoint.Captures request := by
  obtain ⟨context, attached, captured⟩ := underOwnToken_context freshId request
  have method : (underOwnToken freshId request).method = request.method := rfl
  simp [Captures, attached, captured, method]

def spent (freshId : String) (request : Request) : Request :=
  { underOwnToken freshId request with body := .empty }

variable {setting : Producer.Setting} {cancelAt : Option Nat} {state : Policy.Logged}
  {error : GatewayError}

theorem respond_of_refused (setting : Producer.Setting) (cancelAt : Option Nat)
    (captures : endpoint.Captures state.request)
    (refused : state.request.body.refusal endpoint.options.bodyLimit = some error) :
    endpoint.respond setting cancelAt state =
      let served := endpoint.refuse setting.environment setting.freshId
        { state with request := spent setting.freshId state.request } error
      (served.outcome, ⟨served.log, [], 0⟩) := by
  obtain ⟨context, attached, _⟩ := underOwnToken_context setting.freshId state.request
  have taken := captureBody_eq setting.freshId attached (captures_underOwnToken.mpr captures)
  have body : (underOwnToken setting.freshId state.request).body = state.request.body := rfl
  rw [body, refused] at taken
  unfold respond
  rw [taken]
  rfl

/-- A refused body goes nowhere. Nothing is sent, and the error handlers of the route answer with
their response, written once, or abort the request; without any it is the error page that answers.
No policy, no answer and no producer of the route and no backend has a part in it: with others in
their place everything would be the same. -/
theorem refused_body_goes_nowhere {State : Type} (endpoint : Endpoint)
    (setting : Producer.Setting) (cancelAt : Option Nat) (write : Writer State) (target : State)
    (state : Policy.Logged) (error : GatewayError)
    (buffers : endpoint.buffers = true) (method : state.request.method ≠ Method.trace)
    (uncaptured : state.request.context.bind Context.bufferedBody = none)
    (refused : state.request.body.refusal endpoint.options.bodyLimit = some error) :
    let served := endpoint.serve setting cancelAt write target state
    let left := spent setting.freshId state.request
    served.2.sent = [] ∧
    (∀ table, endpoint.options.errorTable = some table →
      let handled := table.serveError setting.environment setting.freshId
        { state with request := left } error
      served.1 = deliver write target handled.outcome ∧ served.2.log = handled.log) ∧
    (endpoint.options.errorTable = none →
      served.1 = ((write target (endpoint.options.errorPage.serve left error)).1, .ok ()) ∧
      served.2.log = state.log) ∧
    ∀ policy redirect response proxies requests backend cancelled,
      let options := { endpoint.options with policy, redirect, response, buffer := true }
      let other : Endpoint := { options, proxies, requests }
      other.serve { setting with backend } cancelled write target state = served := by
  intro served left
  -- what every endpoint does that refuses bodies in the same way
  have same (other : Endpoint) (elsewhere : Producer.Setting) (cancelled : Option Nat)
      (captures : other.Captures state.request)
      (limit : other.options.bodyLimit = endpoint.options.bodyLimit)
      (table : other.options.errorTable = endpoint.options.errorTable)
      (page : other.options.errorPage = endpoint.options.errorPage)
      (environment : elsewhere.environment = setting.environment)
      (freshId : elsewhere.freshId = setting.freshId) :
      other.serve elsewhere cancelled write target state =
        let handled := endpoint.refuse setting.environment setting.freshId
          { state with request := left } error
        (deliver write target handled.outcome, ⟨handled.log, [], 0⟩) := by
    have refusal := respond_of_refused elsewhere cancelled captures (limit ▸ refused)
    have handler : other.refuse = endpoint.refuse := by
      funext environment freshId state error
      rw [refuse, refuse, table, page]
    rw [environment, freshId, handler] at refusal
    unfold serve
    rw [refusal]
    dsimp only
    cases (endpoint.refuse setting.environment setting.freshId
      { state with request := left } error).outcome <;> rfl
  have here : served = _ := same endpoint setting cancelAt ⟨buffers, method, uncaptured⟩
    rfl rfl rfl rfl rfl
  refine ⟨by rw [here], ?_, ?_, ?_⟩
  · intro table found
    simp only [here, refuse, found, and_self]
  · intro missing
    simp only [here, refuse, missing, deliver, and_self]
  · intro policy redirect response proxies requests backend cancelled
    dsimp only
    rw [here]
    apply same
    · exact ⟨by simp [Endpoint.buffers], method, uncaptured⟩
    all_goals rfl

def attentive : Endpoint where
  options :=
    { policy :=
        { request := { set := [("x-body", "$\x7brequest.body\x7d")] }
          response := { set := [("x-body", "$\x7brequest.body\x7d")] }
          customLogFields := [("body", "$\x7brequest.body\x7d")] }
      bodyLimit := 3
      errorTable := some ⟨[("request", { answer := { status := some 499 } })], .html⟩ }
  proxies := [.proxy "app" {}]
  requests := []

def upload : Request where
  method := .post
  uri := .root
  headers := .empty
  body := ⟨[[1, 2], [3, 4]], some (.bodyRead "connection reset")⟩
  context := none

theorem refused_body_goes_nowhere_in_chunks :
    upload.body.refusal 3 = some (.bodySizeExceeded 3) ∧
    (attentive.serve stillSetting (some 80) record [] ⟨upload, []⟩).1 =
      ([⟨⟨499, by decide⟩, .empty, .empty⟩], .ok ()) ∧
    (attentive.serve stillSetting (some 80) record [] ⟨upload, []⟩).2.sent = [] := by
  have refused : upload.body.refusal 3 = some (.bodySizeExceeded 3) := by decide
  have nowhere := refused_body_goes_nowhere attentive stillSetting (some 80) record []
    ⟨upload, []⟩ (.bodySizeExceeded 3) (by decide) (by decide) rfl refused
  exact ⟨refused, (nowhere.2.1 _ rfl).1, nowhere.1⟩

end Endpoint

end Gateway
