import Gateway.Endpoint
import Gateway.Proofs.Evaluation
import Gateway.Proofs.Gathering

/-!
What serving a request comes to. All producers are started, report in some order and are gathered;
the response is that of a plain function of their outcomes in the order of the producers. It is
written once, or not at all if the request is aborted.
-/

namespace Gateway

namespace ClientRequest

theorem length_requestsFor (freshId : String) (client : ClientRequest) (names : List String) :
    (client.requestsFor freshId names).1.length = names.length := by
  induction names generalizing client with
  | nil => rfl
  | cons name rest induction => exact congrArg (· + 1) (induction _)

end ClientRequest

namespace Producer

theorem length_startAll (setting : Setting) (log : LogFields) (copies : List (Producer × Request)) :
    (startAll setting log copies).2.length = copies.length := by
  induction copies generalizing log with
  | nil => rfl
  | cons copy rest induction => exact congrArg (· + 1) (induction _)

end Producer

namespace FanIn

def results (crews : Side → Crew) : List (Except GatewayError Response) :=
  (crews .proxies).tasks.map Task.outcome ++ (crews .requests).tasks.map Task.outcome

theorem map_snd_due (crews : Side → Crew) : (due crews).map Prod.snd = results crews := by
  have outcomes (side : Side) :
      (dueOf crews side).map Prod.snd = (crews side).tasks.map Task.outcome := by
    calc (dueOf crews side).map Prod.snd
        = (crews side).tasks.zipIdx.map (Task.outcome ∘ Prod.fst) := List.map_map
      _ = (crews side).tasks.map Task.outcome := by rw [← List.map_map, List.zipIdx_map_fst]
  rw [due, List.map_append, outcomes, outcomes, results]

end FanIn

namespace Endpoint

variable {endpoint : Endpoint} {setting : Producer.Setting} {cancelAt : Option Nat}

def Started.crews (endpoint : Endpoint) (started : Started) (cancelAt : Option Nat) : Side → Crew
  | .proxies => .ofWorks cancelAt endpoint.proxies started.proxies
  | .requests => .ofWorks cancelAt endpoint.requests started.requests

theorem length_start (endpoint : Endpoint) (setting : Producer.Setting) (state : Policy.Logged) :
    (endpoint.start setting state).proxies.length = endpoint.proxies.length ∧
      (endpoint.start setting state).requests.length = endpoint.requests.length := by
  simp [start, Producer.length_startAll, ClientRequest.length_requestsFor]

theorem outcomes_start (endpoint : Endpoint) (setting : Producer.Setting) (cancelAt : Option Nat)
    (state : Policy.Logged) :
    (endpoint.start setting state).outcomes endpoint cancelAt =
      FanIn.due ((endpoint.start setting state).crews endpoint cancelAt) := by
  obtain ⟨proxies, requests⟩ := length_start endpoint setting state
  apply FanIn.gather_eq_due
  · exact Report.ofWorks_perm proxies.symm
  · exact Report.ofWorks_perm requests.symm

/-- The response of a route as a function of what its producers come to. -/
def reference (options : EndpointOptions) (environment : Environment) (view : RequestView)
    (results : List (Except GatewayError Response)) : Except GatewayError Response :=
  match options.redirect, options.response, results with
  | some redirect, _, _ => redirect.toResponse environment view
  | none, some response, _ => response.toResponse environment view
  | none, none, [result] => result
  | none, none, [] => .error (.configuration "endpoint has no response source")
  | none, none, results =>
      .error (.configuration
        ("endpoint produced " ++ toString results.length ++ " results, expected exactly one"))

theorem select_eq_reference (options : EndpointOptions) (environment : Environment)
    (view : RequestView) (outcomes : Outcomes) : select options environment view outcomes =
      reference options environment view (outcomes.map Prod.snd) := by
  unfold select reference
  cases options.redirect with
  | some redirect => rfl
  | none =>
      cases options.response with
      | some response => rfl
      | none =>
          match outcomes with
          | [] => rfl
          | [outcome] => rfl
          | first :: second :: rest => simp

/-- The body of a request is not refused. -/
def Accepts (endpoint : Endpoint) (setting : Producer.Setting) (state : Policy.Logged) : Prop :=
  (endpoint.captureBody setting.freshId (underOwnToken setting.freshId state.request)).2 = none

/-- The request that the producers are started on: the policy has changed it as far as it can. -/
def admitted (endpoint : Endpoint) (setting : Producer.Setting) (state : Policy.Logged) :
    Policy.Logged :=
  let captured :=
    (endpoint.captureBody setting.freshId (underOwnToken setting.freshId state.request)).1
  (endpoint.options.policy.applyToRequest setting.environment setting.freshId
    { state with request := captured }).1

def crews (endpoint : Endpoint) (setting : Producer.Setting) (cancelAt : Option Nat)
    (state : Policy.Logged) : Side → Crew :=
  (endpoint.start setting (endpoint.admitted setting state)).crews endpoint cancelAt

theorem size_crews (endpoint : Endpoint) (setting : Producer.Setting) (cancelAt : Option Nat)
    (state : Policy.Logged) :
    (endpoint.crews setting cancelAt state .proxies).size = endpoint.proxies.length ∧
      (endpoint.crews setting cancelAt state .requests).size = endpoint.requests.length := by
  obtain ⟨proxies, requests⟩ := length_start endpoint setting (endpoint.admitted setting state)
  exact ⟨(Report.size_ofWorks proxies.symm).trans proxies,
    (Report.size_ofWorks requests.symm).trans requests⟩

theorem length_results (endpoint : Endpoint) (setting : Producer.Setting) (cancelAt : Option Nat)
    (state : Policy.Logged) :
    (FanIn.results (endpoint.crews setting cancelAt state)).length =
      endpoint.proxies.length + endpoint.requests.length := by
  obtain ⟨proxies, requests⟩ := size_crews endpoint setting cancelAt state
  rw [← proxies, ← requests]
  simp [FanIn.results, Crew.size]

def answer (endpoint : Endpoint) (setting : Producer.Setting) (cancelAt : Option Nat)
    (state : Policy.Logged) : Except GatewayError Response :=
  reference endpoint.options setting.environment
    (RequestView.of (endpoint.admitted setting state).request)
    (FanIn.results (endpoint.crews setting cancelAt state))

/-- A response as far as the policy can change it. -/
def policed (endpoint : Endpoint) (setting : Producer.Setting) (state : Policy.Logged)
    (response : Response) : Response :=
  (endpoint.options.policy.applyToResponse setting.environment
    (RequestView.of (endpoint.admitted setting state).request) response).1

variable {state : Policy.Logged}

theorem respond_eq (accepted : endpoint.Accepts setting state) :
    (endpoint.respond setting cancelAt state).1 =
      (endpoint.answer setting cancelAt state).map (endpoint.policed setting state) := by
  unfold respond
  split
  · rename_i request captured
    have same : (endpoint.captureBody setting.freshId
        (underOwnToken setting.freshId state.request)).1 = request := congrArg Prod.fst captured
    subst same
    simp only [produce, outcomes_start, select_eq_reference, FanIn.map_snd_due]
    rfl
  · rename_i captured
    rw [Accepts, captured] at accepted
    simp at accepted

/-- What is left of a place for responses and what serving says: a response is written once, an
error leaves the place alone. -/
def deliver {State : Type} (write : Writer State) (target : State) :
    Except GatewayError Response → State × Except GatewayError Unit
  | .ok response => ((write target response).1, .ok ())
  | .error error => (target, .error error)

theorem serve_eq_deliver {State : Type} (endpoint : Endpoint) (setting : Producer.Setting)
    (cancelAt : Option Nat) (write : Writer State) (target : State) (state : Policy.Logged) :
    (endpoint.serve setting cancelAt write target state).1 =
      deliver write target (endpoint.respond setting cancelAt state).1 := by
  unfold serve
  split
  · rename_i served
    rw [served, deliver]
  · rename_i served
    rw [served, deliver]

/-- The slot holds the response that was written: the handler adds no failure of its own. -/
theorem handle_eq_respond (endpoint : Endpoint) (setting : Producer.Setting)
    (cancelAt : Option Nat) (state : Policy.Logged) :
    (endpoint.handle setting cancelAt state).1 = (endpoint.respond setting cancelAt state).1 := by
  have served := serve_eq_deliver endpoint setting cancelAt ResponseSlot.write none state
  unfold handle
  generalize endpoint.serve setting cancelAt ResponseSlot.write none state = done at served
  obtain ⟨⟨slot, outcome⟩, trace⟩ := done
  cases responded : (endpoint.respond setting cancelAt state).1 with
  | ok response =>
      rw [responded] at served
      cases served
      rfl
  | error error =>
      rw [responded] at served
      cases served
      rfl

def record : Writer (List Response) := fun written response => (written ++ [response], none)

def stillSetting : Producer.Setting := ⟨fun _ => Reaction.failed .clientDisconnect, [], "r1"⟩

end Endpoint

end Gateway
