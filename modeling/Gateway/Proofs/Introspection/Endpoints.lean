import Gateway.Proofs.Introspection.Failures
import Gateway.Proofs.WireForms

/-!
What becomes of an endpoint that was accepted. Settings are checked by the grammar of addresses as
people write them, requests are made by the stricter one of targets. Where an endpoint is a target as
well, no call ever fails for its settings, and each one that finds nothing in the store posts a
request to the endpoint; where it is none, every such call fails for them and nothing is sent.
-/

namespace Gateway

theorem Introspector.judge_ne_configuration (introspector : Introspector) (reply : Reply)
    (message : String) : introspector.judge reply ≠ .error (.configuration message) := by
  intro failed
  unfold judge at failed
  repeat' split at failed
  all_goals cases failed

namespace Introspection

def unroutableEndpoint (fault : Uri.Fault) : GatewayError :=
  .configuration ("introspection endpoint: " ++ fault.message)

namespace Chronicle

variable {setting : Setting} {chronicle : Chronicle} {store : Store} {turns : List Turn}
  {id mover : CallId} {result : Except GatewayError Claims} {time : Nat}

def Holds (chronicle : Chronicle) (id : CallId) (result : Except GatewayError Claims) : Prop :=
  ∃ call claims, chronicle.world.calls[id]? = some call ∧
    (chronicle.world.look call.token).1 = some claims ∧ result = .ok claims

/-- A call got its result from the store at one of its moves. -/
def FromStore (setting : Setting) (store : Store) (turns : List Turn) (id : CallId)
    (result : Except GatewayError Claims) : Prop :=
  ∃ before after, turns = before ++ .go id :: after ∧
    ((fresh store).play setting before).Holds id result

/-- Where a result comes from that a move shows. -/
theorem advance_returned
    (shown : .returned id result time ∈ (chronicle.world.advance setting mover).2) :
    mover = id ∧ (chronicle.Holds id result ∨
      (∃ call error, chronicle.world.calls[id]? = some call ∧
        setting.introspector.prepare call.token = .error error ∧ result = .error error) ∨
      ∃ held reply, chronicle.place id = some (.calling held reply) ∧
        result = (setting.introspector.judge reply).map Prod.fst) := by
  have moved := World.advance_moved setting chronicle.world mover
  generalize chronicle.world.advance setting mover = after at moved shown
  cases moved with
  | hit call generation claims called _ _ found =>
      obtain ⟨rfl, rfl, -⟩ := by simpa using shown
      exact ⟨rfl, .inl ⟨call, claims, called, found, rfl⟩⟩
  | refuse call generation error called _ refused =>
      obtain ⟨rfl, rfl, -⟩ := by simpa using shown
      exact ⟨rfl, .inr (.inl ⟨call, error, called, refused, rfl⟩)⟩
  | fail call generation reply error _ stood failed =>
      obtain ⟨rfl, rfl, -⟩ := by simpa using shown
      exact ⟨rfl, .inr (.inr ⟨generation, reply, stood, by rw [failed]; rfl⟩)⟩
  | take call reply claims bytes _ stood answered =>
      obtain ⟨rfl, rfl, -⟩ := by simpa using shown
      exact ⟨rfl, .inr (.inr ⟨none, reply, stood, by rw [answered]; rfl⟩)⟩
  | keep call generation reply claims bytes _ stood answered =>
      obtain ⟨rfl, rfl, -⟩ := by simpa using shown
      exact ⟨rfl, .inr (.inr ⟨some generation, reply, stood, by rw [answered]; rfl⟩)⟩
  | _ => simp at shown

theorem advance_asked {sent : Sent} {reply : Reply}
    (shown : .asked id sent reply ∈ (chronicle.world.advance setting mover).2) :
    ∃ call, chronicle.world.calls[id]? = some call ∧
      setting.introspector.request call.context call.token = .ok sent.request := by
  have moved := World.advance_moved setting chronicle.world mover
  generalize chronicle.world.advance setting mover = after at moved shown
  cases moved with
  | ask call generation request called _ made =>
      obtain ⟨rfl, rfl, -⟩ := by simpa using shown
      exact ⟨call, called, made⟩
  | _ => simp at shown

theorem exists_move {event : Event}
    (shown : event ∈ ((fresh store).play setting turns).events) :
    ∃ before mover after, turns = before ++ .go mover :: after ∧
      event ∈ (((fresh store).play setting before).world.advance setting mover).2 := by
  -- on the last turn: it shows the event, or it was shown before
  induction turns using List.reverseRecOn with
  | nil => simp [play, fresh] at shown
  | append_singleton turns turn induction =>
      rw [play_append] at shown
      have extended (past : event ∈ ((fresh store).play setting turns).events) :
          ∃ before mover after, turns ++ [turn] = before ++ .go mover :: after ∧
            event ∈ (((fresh store).play setting before).world.advance setting mover).2 := by
        obtain ⟨before, mover, after, split, here⟩ := induction past
        exact ⟨before, mover, after ++ [turn], by simp [split], here⟩
      cases turn with
      | arrive call => exact extended shown
      | wait millis => exact extended shown
      | go mover =>
          rcases List.mem_append.mp shown with past | now
          · exact extended past
          · exact ⟨turns, mover, [], rfl, now⟩

theorem asked_of_calling {held : Option Nat} {reply : Reply}
    (stands : ((fresh store).play setting turns).place id = some (.calling held reply)) :
    HasAsked ((fresh store).play setting turns).events id := by
  induction turns using List.reverseRecOn generalizing held reply with
  | nil => simp [play, fresh, place] at stands
  | append_singleton turns turn induction =>
      rw [play_append] at stands ⊢
      obtain ⟨more, shown, course⟩ := step_place setting ((fresh store).play setting turns) turn id
      have extended (past : HasAsked ((fresh store).play setting turns).events id) :
          HasAsked (((fresh store).play setting turns).step setting turn).events id :=
        shown ▸ past.mono more
      rcases course with ⟨_, same | ⟨_, arrived⟩⟩ | ⟨_, way⟩
      · exact extended (induction (same.symm.trans stands))
      · cases arrived.symm.trans stands
      · rcases way.calling_earlier stands with before | ⟨sent, new⟩
        · exact extended (induction before)
        · exact ⟨sent, reply, shown ▸ List.mem_append_right _ new⟩

theorem HasAsked.later {before after : List Turn}
    (asked : HasAsked ((fresh store).play setting before).events id) :
    HasAsked ((fresh store).play setting (before ++ after)).events id := by
  rw [play_append]
  obtain ⟨more, shown⟩ := events_play setting ((fresh store).play setting before) after
  rw [shown]
  exact asked.mono more

/-- A call that returned had its answer in the store, could make no request, or has sent one and
returned what was made of the reply. -/
theorem returned_cases
    (returned : .returned id result time ∈ ((fresh store).play setting turns).events) :
    FromStore setting store turns id result ∨
      (∃ token error, setting.introspector.prepare token = .error error ∧
        result = .error error) ∨
      HasAsked ((fresh store).play setting turns).events id ∧
        ∃ reply, result = (setting.introspector.judge reply).map Prod.fst := by
  obtain ⟨before, mover, after, split, shown⟩ := exists_move returned
  obtain ⟨rfl, stored | ⟨call, error, _, refused, same⟩ | ⟨held, reply, stands, same⟩⟩ :=
    advance_returned shown
  · exact .inl ⟨before, after, split, stored⟩
  · exact .inr (.inl ⟨call.token, error, refused, same⟩)
  · rw [split]
    exact .inr (.inr ⟨(asked_of_calling stands).later, reply, same⟩)

theorem posted_of_asked {credentials : Credentials} {uri : Uri} {sent : Sent} {reply : Reply}
    (own : setting.introspector.authenticator = credentials.authenticator)
    (parsed : Uri.parse setting.introspector.config.endpoint = .ok uri)
    (asked : .asked id sent reply ∈ ((fresh store).play setting turns).events) :
    sent.request.method = .post ∧ sent.request.uri = uri := by
  obtain ⟨before, mover, after, _, shown⟩ := exists_move asked
  obtain ⟨call, _, made⟩ := advance_asked shown
  obtain ⟨request, makes, method, target, _⟩ :=
    Introspector.request_of_uri call.context call.token own parsed
  obtain rfl : request = sent.request := Except.ok.inj (makes.symm.trans made)
  exact ⟨method, target⟩

/-- The way of every call whose settings were accepted. If the endpoint is a target, no call returns
an error of configuration, a call that returns had its answer in the store or has sent a request, a
call that found nothing sends one at its next move, and all of them are posted to the endpoint. If it
is none, nothing is ever sent, and a call that finds nothing in the store fails. -/
theorem asks_its_endpoint (config : IntrospectionConfig) (introspector : Introspector)
    (setting : Setting) (store : Store) (turns : List Turn)
    (created : Introspector.create config = .ok introspector)
    (used : setting.introspector = introspector) :
    let chronicle := (fresh store).play setting turns
    (∀ uri, Uri.parse config.endpoint = .ok uri →
      (∀ id sent reply, .asked id sent reply ∈ chronicle.events →
        sent.request.method = .post ∧ sent.request.uri = uri) ∧
      (∀ id result time, .returned id result time ∈ chronicle.events →
        (∀ message, result ≠ .error (.configuration message)) ∧
          (FromStore setting store turns id result ∨ HasAsked chronicle.events id)) ∧
      (∀ id call held, chronicle.world.calls[id]? = some call →
        chronicle.place id = some (.missed held) →
          HasAsked (chronicle.step setting (.go id)).events id)) ∧
    (∀ fault, Uri.parse config.endpoint = .error fault →
      (∀ id, ¬HasAsked chronicle.events id) ∧
      (∀ id result time, .returned id result time ∈ chronicle.events →
        FromStore setting store turns id result ∨ result = .error (unroutableEndpoint fault)) ∧
      (∀ id call held, chronicle.world.calls[id]? = some call →
        chronicle.place id = some (.missed held) →
          .returned id (.error (unroutableEndpoint fault)) chronicle.world.now ∈
            (chronicle.step setting (.go id)).events)) := by
  intro chronicle
  obtain ⟨own, -, credentials, -, shown⟩ := Introspector.of_create created
  rw [← own, ← used]
  rw [← used] at shown
  constructor
  · intro uri parsed
    have makes (token : String) (error : GatewayError) :
        setting.introspector.prepare token ≠ .error error := by
      intro failed
      obtain ⟨request, made, _⟩ := Introspector.request_of_uri default token shown parsed
      rw [Introspector.request_eq_error_iff.mpr failed] at made
      cases made
    refine ⟨fun id sent reply asked => posted_of_asked shown parsed asked, ?_, ?_⟩
    · intro id result time returned
      rcases returned_cases returned with stored | ⟨token, error, refused, _⟩ | ⟨asked, reply, same⟩
      · refine ⟨?_, .inl stored⟩
        obtain ⟨_, _, _, _, claims, _, _, rfl⟩ := stored
        exact fun message same => nomatch same
      · exact absurd refused (makes token error)
      · refine ⟨?_, .inr asked⟩
        intro message failed
        rw [same] at failed
        cases judged : setting.introspector.judge reply with
        | ok answer =>
            rw [judged] at failed
            cases failed
        | error error =>
            rw [judged] at failed
            cases failed
            exact setting.introspector.judge_ne_configuration reply message judged
    · intro id call held called stands
      rcases step_ask called stands with asked | ⟨error, refused, _⟩
      · exact asked
      · exact absurd refused (makes call.token error)
  · intro fault refused
    have fails (token : String) :
        setting.introspector.prepare token = .error (unroutableEndpoint fault) :=
      Introspector.prepare_of_fault token refused
    have silent (id : CallId) (turns : List Turn) :
        ¬HasAsked ((fresh store).play setting turns).events id := by
      rintro ⟨sent, reply, asked⟩
      obtain ⟨before, mover, after, _, shown⟩ := exists_move asked
      obtain ⟨call, _, made⟩ := advance_asked shown
      rw [Introspector.request_eq_error_iff.mpr (fails call.token)] at made
      cases made
    refine ⟨fun id => silent id turns, ?_, ?_⟩
    · intro id result time returned
      rcases returned_cases returned with stored | ⟨token, error, failed, rfl⟩ | ⟨asked, _⟩
      · exact .inl stored
      · rw [fails] at failed
        cases failed
        exact .inr rfl
      · exact absurd asked (silent id turns)
    · intro id call held called stands
      rcases step_ask called stands with asked | ⟨error, failed, returned⟩
      · have played : chronicle.step setting (.go id) =
            (fresh store).play setting (turns ++ [.go id]) := by
          rw [play_append]
          rfl
        rw [played] at asked
        exact absurd asked (silent id _)
      · rw [fails] at failed
        cases failed
        exact returned

def askingAt (endpoint : String) : IntrospectionConfig where
  endpoint
  authMethod := .none
  clientId := "id"

def lookingUpAt (endpoint : String) : Setting where
  introspector := ⟨askingAt endpoint, Introspector.publicClient.authenticator⟩
  server _ _ := { outcome := .error .clientDisconnect }
  wall _ := 0

theorem create_askingAt (endpoint : String) (valid : (askingAt endpoint).validate = .ok ()) :
    Introspector.create (askingAt endpoint) = .ok (lookingUpAt endpoint).introspector := by
  rw [Introspector.create, valid]
  rfl

def soundEndpoint : String := "http://[::1]/introspect"

def oneCall : List Turn := [.arrive (.under "r" "t" 0), .go 0, .go 0]

theorem asks_its_endpoint_once :
    HasAsked ((fresh .empty).play (lookingUpAt soundEndpoint) oneCall).events 0 ∧
      ∀ id sent reply,
        .asked id sent reply ∈ ((fresh .empty).play (lookingUpAt soundEndpoint) oneCall).events →
        sent.request.uri = ⟨some "http", some "[::1]", "/introspect", none⟩ := by
  have parsed : Uri.parse soundEndpoint =
      .ok ⟨some "http", some "[::1]", "/introspect", none⟩ := by decide +kernel
  have created := create_askingAt soundEndpoint (by decide +kernel)
  have before := asks_its_endpoint (askingAt soundEndpoint) _ (lookingUpAt soundEndpoint) .empty
    (oneCall.take 2) created rfl
  have whole := asks_its_endpoint (askingAt soundEndpoint) _ (lookingUpAt soundEndpoint) .empty
    oneCall created rfl
  have missed : ((fresh .empty).play (lookingUpAt soundEndpoint) (oneCall.take 2)).place 0 =
      some (.missed none) := rfl
  constructor
  · exact (before.1 _ parsed).2.2 0 (.under "r" "t" 0) none rfl missed
  · exact fun id sent reply asked => ((whole.1 _ parsed).1 id sent reply asked).2

def brokenEndpoint : String := "http://[::1]/in trospect"

def brokenRun : Chronicle := (fresh .empty).play (lookingUpAt brokenEndpoint) oneCall

/-- Settings with such an endpoint are accepted, and each call fails for them before anything is
sent. -/
theorem fails_after_acceptance :
    Introspector.create (askingAt brokenEndpoint) =
        .ok (lookingUpAt brokenEndpoint).introspector ∧
      .returned 0 (.error (.configuration "introspection endpoint: invalid uri character")) 0 ∈
        brokenRun.events ∧ ¬HasAsked brokenRun.events 0 := by
  have events : brokenRun.events = [.returned 0
      (.error (.configuration "introspection endpoint: invalid uri character")) 0] := rfl
  refine ⟨create_askingAt brokenEndpoint (by decide +kernel), ?_, ?_⟩
  · simp [events]
  · simp [HasAsked, events]

end Chronicle

end Introspection

end Gateway
