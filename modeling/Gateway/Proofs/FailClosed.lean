import Gateway.Proofs.Operations
import Gateway.Proofs.Rewriting

/-!
A proxy fails closed. What can be wrong with a request on its way is listed in the order in which it
is looked at, and the first fault decides: the proxy returns it whatever the backend would do, and
the backend gets nothing. A request without a fault is sent once, and what the backend comes to is
handed back; the policy for responses may change the headers of a response, and it cannot make it
fail.
-/

namespace Gateway

namespace Proxy

variable {policy : Policy} {environment : Environment} {freshId : String} {state : Policy.Logged}

def failure? {Result : Type} : Except GatewayError Result → Option GatewayError
  | .ok _ => none
  | .error error => some error

def policyFault (policy : Policy) (environment : Environment) (request : Request) :
    Option GatewayError :=
  let before := Scope.ofRequest environment (RequestView.of request)
  let after := Scope.ofRequest environment
    (RequestView.of (policy.transformed environment request))
  policy.operations.findSome? (Policy.Operation.fault before after)

def countFault (kind : String) (count : Nat) : Option GatewayError :=
  if 1 < count then some (tooMany kind) else none

def timeoutFault (block : WebsocketsBlock) : Option GatewayError :=
  match timeoutText block with
  | none => none
  | some text =>
      match Duration.parse text with
      | .error message => some (.configuration ("websockets timeout: " ++ message))
      | .ok _ => none

def upgradeFault (environment : Environment) (freshId : String) (request : Request)
    (block : WebsocketsBlock) : Option GatewayError :=
  let scope := Scope.ofRequest environment (RequestView.of (permitted freshId request))
  block.request.changes.findSome? (HeaderChange.fault scope)

/-- What is wrong with a text as the destination of a target: that it is no address, the target that
the two make up, or the host. -/
def addressFault (uri : Uri) (text : String) : Option GatewayError :=
  match readDestination text with
  | .error error => some error
  | .ok address => (failure? (aim uri address)).or (failure? (hostValue address.authority))

/-- What is wrong with the destination of a policy: the expressions in it, or what they come to. -/
def destinationFault (policy : Policy) (environment : Environment) (request : Request) :
    Option GatewayError :=
  let scope := Scope.ofRequest environment (RequestView.of request)
  (policy.url.bind fun template => failure? (scope.render template)).or
    ((target? policy environment request).bind (addressFault request.uri))

/-- What can be wrong with a request, in the order in which it counts: the policy, the number of the
blocks, the block for upgrades if the request asks for one, and the destination. Each of them is
looked at on the request as those before it have left it. -/
def faults (policy : Policy) (environment : Environment) (freshId : String)
    (state : Policy.Logged) : List (Option GatewayError) :=
  let changed := policy.applyToRequest environment freshId state
  let block := appliedBlock policy environment freshId state
  [policyFault policy environment state.request,
    countFault "websockets" policy.websockets.length,
    countFault "backend" policy.backends.length,
    block.bind (upgradeFault environment freshId changed.1.request),
    block.bind timeoutFault,
    destinationFault policy environment (beforeAiming policy environment freshId state).request]

def firstFault (faults : List (Option GatewayError)) : Option GatewayError :=
  faults.findSome? id

theorem firstFault_cons (fault : Option GatewayError) (rest : List (Option GatewayError)) :
    firstFault (fault :: rest) = fault.or (firstFault rest) := by
  rw [firstFault, List.findSome?_cons]
  cases fault <;> rfl

theorem applyToRequest_fault (policy : Policy) (environment : Environment) (freshId : String)
    (state : Policy.Logged) :
    (policy.applyToRequest environment freshId state).2 =
      policyFault policy environment state.request := by
  have whole := congrArg Prod.snd (Policy.applyToRequest_eq policy environment freshId state)
  rw [carryOut_fault] at whole
  exact whole.symm

theorem changeHeaders_fault (block : WebsocketsBlock) (environment : Environment)
    (freshId : String) (request : Request) :
    (Policy.changeRequest block.request environment (permitted freshId request)).2 =
      upgradeFault environment freshId request block := by
  have whole := congrArg Prod.snd (HeaderChange.applyAll_eq
    (Scope.ofRequest environment (RequestView.of (permitted freshId request)))
    (permitted freshId request).headers block.request.changes)
  rw [carryOut_fault] at whole
  exact whole

theorem pointTo_fault (text : String) (state : Policy.Logged) :
    (pointTo text state).2 = addressFault state.request.uri text := by
  unfold pointTo redirect addressFault
  cases readDestination text with
  | error error => rfl
  | ok address =>
      simp only [bind, Except.bind]
      cases aim state.request.uri address with
      | error error => rfl
      | ok uri => cases hostValue address.authority <;> rfl

theorem pointToUrl_fault (template : String) (environment : Environment) (freshId : String)
    (state : Policy.Logged) :
    let scope := Scope.ofRequest environment (RequestView.of state.request)
    (pointToUrl template environment freshId state).2 =
      (failure? (scope.render template)).or
        (((scope.render template).toOption.filter (· ≠ "")).bind
          (addressFault state.request.uri)) := by
  intro scope
  unfold pointToUrl
  dsimp only [scope]
  cases (Scope.ofRequest environment (RequestView.of state.request)).render template with
  | error error => rfl
  | ok text =>
      dsimp only
      by_cases empty : text = ""
      · rw [if_pos empty, empty]
        rfl
      · have filled : (some text).filter (· ≠ "") = some text :=
          Option.filter_eq_some_iff.mpr ⟨rfl, by simpa using empty⟩
        rw [if_neg empty, pointTo_fault, Except.toOption, filled]
        rfl

theorem applyUrl_fault (policy : Policy) (environment : Environment) (freshId : String)
    (state : Policy.Logged) :
    (applyUrl policy environment freshId state).2 =
      destinationFault policy environment state.request := by
  unfold applyUrl destinationFault target?
  cases policy.url with
  | none =>
      cases policy.backends with
      | nil => rfl
      | cons origin rest => exact pointTo_fault origin state
  | some template => exact pointToUrl_fault template environment freshId state

theorem andThen_fault (first second : Stage) (state : Policy.Logged) :
    (andThen first second state).2 = (first state).2.or (second (first state).1).2 := by
  unfold andThen
  split
  · rename_i done
    rw [done]
    rfl
  · rename_i done
    rw [done]
    rfl

theorem readTimeout_fault (block : WebsocketsBlock) (freshId : String) (state : Policy.Logged) :
    (readTimeout block freshId state).2 = timeoutFault block := by
  unfold readTimeout timeoutFault
  cases timeoutText block with
  | none => rfl
  | some text =>
      dsimp only
      cases Duration.parse text <;> rfl

theorem permitUpgrade_fault (block : WebsocketsBlock) (environment : Environment)
    (freshId : String) (state : Policy.Logged) :
    (permitUpgrade block environment freshId state).2 =
      if state.request.isUpgrade then
        (upgradeFault environment freshId state.request block).or (timeoutFault block)
      else none := by
  have asks : (permitted freshId state.request).isUpgrade = state.request.isUpgrade := rfl
  rw [← asks]
  unfold permitUpgrade
  dsimp only
  rw [← permitted]
  split
  · rw [andThen_fault, readTimeout_fault, ← changeHeaders_fault]
    rfl
  · rfl

theorem applyWebsockets_fault (policy : Policy) (environment : Environment) (freshId : String)
    (state : Policy.Logged) :
    let block := if state.request.isUpgrade then policy.websockets.head? else none
    (applyWebsockets policy environment freshId state).2 =
      (countFault "websockets" policy.websockets.length).or
        ((countFault "backend" policy.backends.length).or
          ((block.bind (upgradeFault environment freshId state.request)).or
            (block.bind timeoutFault))) := by
  intro block
  unfold applyWebsockets countFault
  by_cases blocks : 1 < policy.websockets.length
  · simp only [if_pos blocks, Option.some_or]
  by_cases origins : 1 < policy.backends.length
  · simp only [if_neg blocks, if_pos origins, Option.none_or, Option.some_or]
  simp only [if_neg blocks, if_neg origins, Option.none_or]
  cases listed : policy.websockets with
  | nil => simp [block, listed]
  | cons first rest =>
      dsimp only
      rw [permitUpgrade_fault]
      by_cases asks : state.request.isUpgrade = true
      · simp [block, listed, asks]
      · simp [block, asks]

/-- The preparation of a request fails with its first fault. -/
theorem prepare_fault (policy : Policy) (environment : Environment) (freshId : String)
    (state : Policy.Logged) :
    (prepare policy environment freshId state).2 =
      firstFault (faults policy environment freshId state) := by
  have stripped (pointed : Policy.Logged) : (direct freshId pointed).2 = none := rfl
  have first : firstFault (faults policy environment freshId state) =
      (policy.applyToRequest environment freshId state).2.or
        ((applyWebsockets policy environment freshId
            (policy.applyToRequest environment freshId state).1).2.or
          (applyUrl policy environment freshId
            (beforeAiming policy environment freshId state)).2) := by
    rw [applyWebsockets_fault, ← appliedBlock, applyToRequest_fault, applyUrl_fault]
    simp only [faults, firstFault_cons, Option.or_assoc]
    simp [firstFault]
  rw [first, prepare, andThen_fault, andThen_fault, andThen_fault, stripped, Option.or_none]
  rfl

/-- What a proxy makes of the reaction of its backend: it comes as late and to the same end, and of
a response only the headers are changed, by the policy and as far as that gets. -/
structure HandsBack (policy : Policy) (environment : Environment) (outbound : Request)
    (reaction result : Reaction) : Prop where
  delay : result.delay = reaction.delay
  died : reaction.ending = .died → result.ending = .died
  failed : ∀ error, reaction.ending = .settled (.error error) →
    result.ending = .settled (.error error)
  answered : ∀ response, reaction.ending = .settled (.ok response) →
    ∃ answer, result.ending = .settled (.ok answer) ∧
      answer.status = response.status ∧ answer.body = response.body ∧
      answer.headers = (policy.response.apply
        ⟨environment, RequestView.of outbound, some (ResponseView.of response)⟩
        response.headers).1 ∧
      ∀ name, ¬policy.response.Names name →
        answer.headers.getAll name = response.headers.getAll name

theorem handsBack_mapResponse (policy : Policy) (environment : Environment) (outbound : Request)
    (reaction : Reaction) : HandsBack policy environment outbound reaction
      (reaction.mapResponse (finish policy environment outbound)) where
  delay := rfl
  died dies := by
    unfold Reaction.mapResponse
    rw [dies]
    rfl
  failed error fails := by
    unfold Reaction.mapResponse
    rw [fails]
    rfl
  answered response answers := by
    refine ⟨finish policy environment outbound response, ?_, rfl, rfl, rfl, ?_⟩
    · unfold Reaction.mapResponse
      rw [answers]
      rfl
    · intro name foreign
      exact HeaderPolicy.getAll_apply foreign _ _

/-- A proxy fails closed, and it calls its backend once or not at all. The first fault of a request
is returned and nothing is sent, whatever the backend is; without one the request that is sent does
not depend on the backend, and the reaction to it is handed back. -/
theorem fails_closed_or_calls_once (name : String) (policy : Policy) (environment : Environment)
    (freshId : String) (state : Policy.Logged) :
    let start := fun backend =>
      ((Producer.proxy name policy).start ⟨backend, environment, freshId⟩ state).2
    match firstFault (faults policy environment freshId state) with
    | some error => ∀ backend, start backend = Work.failed error
    | none => ∃ outbound, ∀ backend, (start backend).sent = some outbound ∧
        HandsBack policy environment outbound (backend outbound) (start backend).reaction := by
  intro start
  have fault := prepare_fault policy environment freshId state
  split
  · rename_i error first
    intro backend
    exact start_of_failed name (fault.trans first)
  · rename_i sound
    rw [← fault] at sound
    refine ⟨(prepare policy environment freshId state).1.request, ?_⟩
    intro backend
    simp only [start, start_eq, sound]
    exact ⟨trivial, handsBack_mapResponse policy environment _ _⟩

def overfullPolicy : Policy where
  websockets := [{ timeout := some "soon" }, {}]
  backends := ["nowhere", "http://b"]

def carelessPolicy : Policy where
  response := { remove := ["x-keep"], set := [("x-none", "$\x7bnowhere\x7d")] }

def willing : Backend := fun _ => ⟨7, .settled (.ok ⟨.ok, .empty, .ofBytes [1, 2]⟩)⟩

/-- Of many faults the first is returned; a response outlives the failure of its policy. -/
theorem fails_closed_or_calls_once_each :
    (∀ backend, ((Producer.proxy "p" overfullPolicy).start ⟨backend, [], "r"⟩
        ⟨intimateRequest, []⟩).2 = Work.failed (tooMany "websockets")) ∧
      ∃ answer, ((Producer.proxy "p" carelessPolicy).start ⟨willing, [], "r"⟩
          ⟨intimateRequest, []⟩).2.reaction.ending = .settled (.ok answer) ∧
        answer.body = .ofBytes [1, 2] := by
  have refused := fails_closed_or_calls_once "p" overfullPolicy [] "r" ⟨intimateRequest, []⟩
  have called := fails_closed_or_calls_once "p" carelessPolicy [] "r" ⟨intimateRequest, []⟩
  have first : firstFault (faults overfullPolicy [] "r" ⟨intimateRequest, []⟩) =
      some (tooMany "websockets") := rfl
  have sound : firstFault (faults carelessPolicy [] "r" ⟨intimateRequest, []⟩) = none := rfl
  rw [first] at refused
  rw [sound] at called
  refine ⟨refused, ?_⟩
  obtain ⟨outbound, every⟩ := called
  obtain ⟨_, back⟩ := every willing
  obtain ⟨answer, ended, _, body, _⟩ := back.answered _ rfl
  exact ⟨answer, ended, body⟩

end Proxy

end Gateway
