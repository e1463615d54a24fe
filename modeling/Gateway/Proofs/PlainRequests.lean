import Gateway.Proofs.Injection
import Gateway.Proofs.Stages

/-!
A block for upgrades is for upgrades only. The one mark that it leaves on any other request is that
upgrades are permitted, and no stage behind it looks at that mark: the destination is chosen and the
headers are stripped as without the block. Nor can these stages turn the request into one that asks
for an upgrade, so that it is not taken for one when it is looked at for the second time.
-/

namespace Gateway

namespace Request

def allowing (request : Request) : Request :=
  request.mapContext fun context => { context with allowWebsockets := true }

theorem view_allowing (request : Request) : RequestView.of request.allowing = .of request := by
  cases attached : request.context <;> simp [RequestView.of, allowing, mapContext, attached]

theorem websocketsTimeout_allowing (request : Request) :
    request.allowing.context.bind Context.websocketsTimeout =
      request.context.bind Context.websocketsTimeout := by
  rw [allowing, mapContext, Option.bind_map]
  rfl

theorem isSome_allowing (request : Request) :
    request.allowing.context.isSome = request.context.isSome :=
  Option.isSome_map

theorem isUpgrade_congr {left right : Request}
    (connection : left.headers.getAll .connection = right.headers.getAll .connection)
    (upgrade : left.headers.getAll .upgrade = right.headers.getAll .upgrade) :
    left.isUpgrade = right.isUpgrade := by
  have text : left.headers.text? .connection = right.headers.text? .connection := by
    simp only [HeaderMap.text?, HeaderMap.get?, connection]
  have named (request : Request) : request.headers.contains .upgrade =
      !(request.headers.getAll .upgrade).isEmpty := by
    rw [Bool.eq_iff_iff]
    simp [HeaderMap.contains, HeaderMap.getAll_eq_nil_iff]
  unfold isUpgrade
  rw [text, named, named, upgrade]

end Request

def Policy.Logged.allowing (state : Policy.Logged) : Policy.Logged :=
  { state with request := state.request.allowing }

namespace Proxy

variable {policy : Policy} {environment : Environment} {freshId : String}
  {state after : Policy.Logged}

/-- A stage that does not look at the mark of a request that has a context. -/
structure Overlooks (stage : Stage) : Prop where
  keepsId : KeepsId stage
  unseen : ∀ state, state.request.context.isSome = true →
    stage state.allowing = ((stage state).1.allowing, (stage state).2)

theorem Overlooks.andThen {first second : Stage} (before : Overlooks first)
    (behind : Overlooks second) : Overlooks (andThen first second) where
  keepsId := before.keepsId.andThen behind.keepsId
  unseen state attached := by
    have still := (before.keepsId state).isSome attached
    exact andThen_map (before.unseen state attached) (behind.unseen _ still)

theorem marks_overlooks (freshId : String) (change : Context → Context)
    (keeps : ∀ context, (change context).requestId = context.requestId)
    (apart : ∀ context : Context, change { context with allowWebsockets := true } =
      { change context with allowWebsockets := true }) : Overlooks (marks freshId change) where
  keepsId state := (Request.Follows.changeContext state.request freshId keeps).sameId
  unseen state attached := by
    obtain ⟨context, found⟩ := Option.isSome_iff_exists.mp attached
    simp [marks, Policy.Logged.allowing, Request.allowing, Request.mapContext, Request.withContext,
      Request.contextOr, found, apart]

theorem pointTo_overlooks (target : String) : Overlooks (pointTo target) where
  keepsId := pointTo_keepsId target
  unseen state _ := by
    have redirected : redirect state.request.allowing target =
        (redirect state.request target).map Request.allowing :=
      redirect_map target rfl fun _ _ => rfl
    have request : state.allowing.request = state.request.allowing := rfl
    unfold pointTo
    rw [request, redirected]
    cases redirect state.request target <;> rfl

theorem applyUrl_overlooks (policy : Policy) (environment : Environment) (freshId : String) :
    Overlooks (applyUrl policy environment freshId) where
  keepsId := applyUrl_keepsId policy environment freshId
  unseen state attached := by
    have points (url : String) := (marks_overlooks freshId
      (fun context => { context with urlAttribute := some url }) (fun _ => rfl)
      fun _ => rfl).andThen (pointTo_overlooks url)
    have request : state.allowing.request = state.request.allowing := rfl
    unfold applyUrl
    split
    · unfold pointToUrl
      rw [request, Request.view_allowing]
      dsimp only
      split
      · rfl
      · rename_i url _
        split
        · rfl
        · exact (points url).unseen state attached
    · exact (pointTo_overlooks _).unseen state attached
    · rfl

theorem direct_overlooks (freshId : String) : Overlooks (direct freshId) where
  keepsId := (direct_leaves freshId).keepsId
  unseen state attached := by
    have still : ({ state.request with headers := strip state.request.headers } :
        Request).context.isSome = true := attached
    have marked : ({ state.request.allowing with headers := strip state.request.headers } :
        Request).context.isSome = true := (Request.isSome_allowing _).trans attached
    have request : state.allowing.request = state.request.allowing := rfl
    have headers : state.request.allowing.headers = state.request.headers := rfl
    unfold direct
    rw [request, headers]
    dsimp only
    rw [Request.withContext_of_isSome marked, Request.withContext_of_isSome still]
    rfl

def withoutBlocks (policy : Policy) : Policy := { policy with websockets := [] }

theorem applyWebsockets_withoutBlocks (policy : Policy) (environment : Environment)
    (freshId : String) (state : Policy.Logged) :
    applyWebsockets (withoutBlocks policy) environment freshId state =
      (state, if 1 < policy.backends.length then some (tooMany "backend") else none) := by
  by_cases origins : 1 < policy.backends.length <;>
    simp [applyWebsockets, withoutBlocks, origins]

theorem permitUpgrade_of_plain (block : WebsocketsBlock)
    (attached : state.request.context.isSome = true) (plain : state.request.isUpgrade = false) :
    permitUpgrade block environment freshId state = (state.allowing, none) := by
  have own := Request.withContext_of_isSome attached freshId
  have asks : state.request.allowing.isUpgrade = false := plain
  unfold permitUpgrade
  dsimp only
  rw [own, ← Request.allowing, asks]
  rfl

theorem applyWebsockets_of_plain {block : WebsocketsBlock} (only : policy.websockets = [block])
    (attached : state.request.context.isSome = true) (plain : state.request.isUpgrade = false) :
    applyWebsockets policy environment freshId state =
      if 1 < policy.backends.length then (state, some (tooMany "backend"))
      else (state.allowing, none) := by
  have permits := @permitUpgrade_of_plain environment freshId state block attached plain
  by_cases origins : 1 < policy.backends.length <;>
    simp [applyWebsockets, only, origins, permits]

/-- Behind the request policy a block and no block make no difference but the mark. -/
theorem prepare_withoutBlocks {block : WebsocketsBlock} (only : policy.websockets = [block])
    (attached : state.request.context.isSome = true)
    (plain : ∀ changed, policy.applyToRequest environment freshId state = (changed, none) →
      changed.request.isUpgrade = false) :
    let bare := prepare (withoutBlocks policy) environment freshId state
    let full := prepare policy environment freshId state
    full.2 = bare.2 ∧ full.1.log = bare.1.log ∧ (bare.2 = none → full.1 = bare.1.allowing) := by
  have first : (withoutBlocks policy).applyToRequest environment freshId state =
      policy.applyToRequest environment freshId state := rfl
  have aims : applyUrl (withoutBlocks policy) environment freshId =
      applyUrl policy environment freshId := rfl
  have still := (applyToRequest_follows policy environment freshId state).sameId.isSome attached
  intro bare full
  dsimp only [bare, full, prepare]
  unfold andThen
  rw [first, aims]
  generalize policy.applyToRequest environment freshId state = done at plain still ⊢
  obtain ⟨changed, failure⟩ := done
  cases failure with
  | some error => exact ⟨rfl, rfl, fun same => absurd same (Option.some_ne_none _)⟩
  | none =>
      have marked := @applyWebsockets_of_plain policy environment freshId changed block only still
        (plain changed rfl)
      dsimp only
      rw [applyWebsockets_withoutBlocks, marked]
      by_cases origins : 1 < policy.backends.length
      · rw [if_pos origins, if_pos origins]
        exact ⟨rfl, rfl, fun same => absurd same (Option.some_ne_none _)⟩
      · have rest := ((applyUrl_overlooks policy environment freshId).andThen
          (direct_overlooks freshId)).unseen changed still
        unfold andThen at rest
        rw [if_neg origins, if_neg origins]
        dsimp only
        rw [rest]
        exact ⟨rfl, rfl, fun _ => rfl⟩

theorem isUpgrade_prepared
    (prepared : prepare (withoutBlocks policy) environment freshId state = (after, none)) :
    after.request.isUpgrade =
      (policy.applyToRequest environment freshId state).1.request.isUpgrade := by
  obtain ⟨changed, permitted, pointed, first, second, third, stripped⟩ := prepare_stages prepared
  have own : (policy.applyToRequest environment freshId state).1 = changed :=
    congrArg Prod.fst first
  rw [applyWebsockets_withoutBlocks] at second
  have passed : permitted = changed := (congrArg Prod.fst second).symm
  have kept (name : HeaderName) (shown : name.text ∉ privateNames) (apart : name ≠ .host) :
      after.request.headers.getAll name = changed.request.headers.getAll name := by
    rw [stripped, getAll_strip, if_neg shown, ← passed]
    exact getAll_applyUrl apart third
  rw [own]
  apply Request.isUpgrade_congr
  · exact kept .connection (by decide) (by decide)
  · exact kept .upgrade (by decide) (by decide)

theorem untouched_websocketsTimeout : Untouched Context.websocketsTimeout :=
  ⟨fun _ => rfl, fun _ _ => rfl⟩

/-- Only a block sets the time-out of an upgrade. -/
theorem prepare_keepsTimeout (policy : Policy) (environment : Environment) (freshId : String) :
    Keeps Context.websocketsTimeout (prepare (withoutBlocks policy) environment freshId) := by
  have untouched := untouched_websocketsTimeout
  have passes : Keeps Context.websocketsTimeout
      (applyWebsockets (withoutBlocks policy) environment freshId) := by
    intro state
    rw [applyWebsockets_withoutBlocks]
  have directed := Keeps.andThen untouched (applyUrl_keeps untouched (withoutBlocks policy)
    environment freshId) (direct_keeps untouched freshId)
  exact Keeps.andThen untouched
    (applyToRequest_keeps untouched (withoutBlocks policy) environment freshId)
    (Keeps.andThen untouched passes directed)

theorem applyToRequest_of_prepared
    (prepared : prepare (withoutBlocks policy) environment freshId state = (after, none)) :
    policy.applyToRequest environment freshId state =
      ((policy.applyToRequest environment freshId state).1, none) := by
  obtain ⟨changed, _, _, first, _⟩ := prepare_stages prepared
  have own : policy.applyToRequest environment freshId state = (changed, none) := first
  rw [own]

theorem upgradeProtocol_of_plain {outbound : Request} (plain : outbound.isUpgrade = false) :
    upgradeProtocol outbound = none := by
  simp [upgradeProtocol, plain]

theorem finish_allowing (policy : Policy) (environment : Environment) (outbound : Request) :
    finish policy environment outbound.allowing = finish policy environment outbound := by
  funext response
  rw [finish, finish, Request.view_allowing]

/-- A request that does not ask for an upgrade when the policy has changed it fares with a block for
upgrades as without one. The same is written down, and the same request goes out but for the mark
that upgrades are permitted; no time-out is set, and it is not proxied as an upgrade either. If the
backend answers the same to both, the proxy does so, too; without a call it fails in the same way.
-/
theorem plain_requests_overlook_block (setting : Producer.Setting) (name : String)
    (policy : Policy) (block : WebsocketsBlock) (state : Policy.Logged)
    (only : policy.websockets = [block]) (attached : state.request.context.isSome = true)
    (plain : ∀ changed,
      policy.applyToRequest setting.environment setting.freshId state = (changed, none) →
        changed.request.isUpgrade = false) :
    let full := (Producer.proxy name policy).start setting state
    let bare := (Producer.proxy name (withoutBlocks policy)).start setting state
    full.1 = bare.1 ∧
    full.2.sent = bare.2.sent.map Request.allowing ∧
    (∀ outbound, bare.2.sent = some outbound →
      outbound.allowing.context.bind Context.websocketsTimeout =
        state.request.context.bind Context.websocketsTimeout ∧
      upgradeProtocol outbound = none ∧ upgradeProtocol outbound.allowing = none) ∧
    ((∀ outbound, bare.2.sent = some outbound →
        setting.backend outbound.allowing = setting.backend outbound) →
      full.2.reaction = bare.2.reaction) := by
  obtain ⟨failures, logs, marked⟩ := prepare_withoutBlocks only attached plain
  have kept := prepare_keepsTimeout policy setting.environment setting.freshId state
  dsimp only
  rw [start_eq, start_eq]
  dsimp only
  cases ready : prepare (withoutBlocks policy) setting.environment setting.freshId state with
  | mk prepared failure =>
      rw [ready] at failures logs marked kept
      rw [failures, logs]
      cases failure with
      | some error =>
          refine ⟨rfl, rfl, ?_, fun _ => rfl⟩
          intro outbound sent
          cases sent
      | none =>
          have asksNot : prepared.request.isUpgrade = false := by
            rw [isUpgrade_prepared ready]
            exact plain _ (applyToRequest_of_prepared ready)
          rw [marked rfl]
          refine ⟨rfl, rfl, ?_, ?_⟩
          · rintro _ ⟨⟩
            refine ⟨?_, upgradeProtocol_of_plain asksNot, upgradeProtocol_of_plain asksNot⟩
            rw [← kept]
            exact Request.websocketsTimeout_allowing _
          · intro alike
            dsimp only [Policy.Logged.allowing]
            rw [alike _ rfl, finish_allowing policy]
            rfl

def rebuffing : Policy where
  request := { remove := ["upgrade"] }
  websockets := [{ timeout := some "soon", request := { set := [("x-none", "$\x7bnowhere\x7d")] } }]

def askingRequest : Request := intimateRequest.withContext "own"

/-- A block that would refuse every upgrade lets a request through that the policy has made a plain
one. -/
theorem plain_requests_overlook_block_rebuffed :
    let full := ((Producer.proxy "p" rebuffing).start silentSetting ⟨askingRequest, []⟩).2
    let bare := ((Producer.proxy "p" (withoutBlocks rebuffing)).start silentSetting
      ⟨askingRequest, []⟩).2
    askingRequest.isUpgrade = true ∧ bare.sent.isSome = true ∧
      full.sent = bare.sent.map Request.allowing ∧ full.reaction = bare.reaction := by
  have plain : ∀ changed, rebuffing.applyToRequest [] "id" ⟨askingRequest, []⟩ = (changed, none) →
      changed.request.isUpgrade = false := by
    intro changed done
    have own : _ = changed := congrArg Prod.fst done
    rw [← own]
    decide
  obtain ⟨_, sent, _, reaction⟩ := plain_requests_overlook_block silentSetting "p" rebuffing _
    ⟨askingRequest, []⟩ rfl rfl plain
  exact ⟨by decide, by decide, sent, reaction fun _ _ => rfl⟩

end Proxy

end Gateway
