import Gateway.Proofs.Operations
import Gateway.Proofs.Stages
import Gateway.Route

/-!
Which block of a route answers an error. The kinds of the error compete from specific to general, and
among the blocks that list one kind the last one wins; the wildcard stands behind all kinds of the
error, and the error page behind the wildcard. The block that is found records its fields of the log
and builds its answer. Neither its fields nor its changes of the answer decide anything more: where
they fail they are left off, and the answer stands.
-/

namespace Gateway

namespace ErrorBlock

def Lists (block : ErrorBlock) (kind : String) : Prop :=
  ∃ listed ∈ block.kinds, Text.trim listed = kind

def Unlisted (blocks : List ErrorBlock) (kind : String) : Prop :=
  ∀ block ∈ blocks, ¬block.Lists kind

inductive Last (blocks : List ErrorBlock) (kind : String) (block : ErrorBlock) : Prop where
  | intro (before after : List ErrorBlock) (split : blocks = before ++ block :: after)
      (lists : block.Lists kind) (later : Unlisted after kind)

def pairs (blocks : List ErrorBlock) : List (String × ErrorHandler) :=
  blocks.flatMap fun block => block.kinds.map fun kind => (Text.trim kind, block.handler)

variable {blocks : List ErrorBlock} {kind : String} {block : ErrorBlock}

theorem unlisted_or_last (blocks : List ErrorBlock) (kind : String) :
    Unlisted blocks kind ∨ ∃ block, Last blocks kind block := by
  induction blocks with
  | nil => exact .inl fun block member => absurd member List.not_mem_nil
  | cons first rest induction =>
      rcases induction with unlisted | ⟨block, ⟨before, after, split, lists, later⟩⟩
      · by_cases lists : first.Lists kind
        · exact .inr ⟨first, [], rest, rfl, lists, unlisted⟩
        · exact .inl (List.forall_mem_cons.mpr ⟨lists, unlisted⟩)
      · exact .inr ⟨block, first :: before, after, by rw [split]; rfl, lists, later⟩

theorem pairs_append (front back : List ErrorBlock) :
    pairs (front ++ back) = pairs front ++ pairs back :=
  List.flatMap_append

theorem find?_pairs_of_unlisted (unlisted : Unlisted blocks kind) :
    ((pairs blocks).reverse.find? fun pair => pair.1 = kind) = none := by
  rw [List.find?_eq_none]
  intro pair member
  obtain ⟨block, configured, listed⟩ := List.mem_flatMap.mp (List.mem_reverse.mp member)
  obtain ⟨text, among, rfl⟩ := List.mem_map.mp listed
  simpa using fun same => unlisted block configured ⟨text, among, same⟩

theorem find?_pairs_singleton (lists : block.Lists kind) :
    ∃ pair, ((pairs [block]).reverse.find? fun pair => pair.1 = kind) = some pair ∧
      pair.2 = block.handler := by
  obtain ⟨text, among, same⟩ := lists
  have member : (kind, block.handler) ∈ (pairs [block]).reverse := by
    rw [List.mem_reverse, pairs, List.flatMap_singleton, ← same]
    exact List.mem_map_of_mem among
  have found : ((pairs [block]).reverse.find? fun pair => pair.1 = kind).isSome = true := by
    rw [List.find?_isSome]
    exact ⟨_, member, by simp⟩
  obtain ⟨pair, here⟩ := Option.isSome_iff_exists.mp found
  refine ⟨pair, here, ?_⟩
  have own := List.mem_reverse.mp (List.mem_of_find?_eq_some here)
  rw [pairs, List.flatMap_singleton] at own
  obtain ⟨_, _, rfl⟩ := List.mem_map.mp own
  rfl

end ErrorBlock

namespace RouteConfig

open ErrorBlock

variable {config : RouteConfig} {kind : String} {block : ErrorBlock}

theorem handlers_errorTable (config : RouteConfig) :
    config.errorTable.handlers = SortedMap.ofList (pairs config.errorBlocks) := by
  simp only [errorTable, ErrorTable.ofList, pairs, List.flatMap_map]

theorem get?_handlers_of_unlisted (unlisted : Unlisted config.errorBlocks kind) :
    config.errorTable.handlers.get? kind = none := by
  rw [handlers_errorTable, SortedMap.get?_ofList, find?_pairs_of_unlisted unlisted]
  rfl

theorem get?_handlers_of_last (last : Last config.errorBlocks kind block) :
    config.errorTable.handlers.get? kind = some block.handler := by
  obtain ⟨before, after, split, lists, later⟩ := last
  obtain ⟨pair, found, own⟩ := find?_pairs_singleton lists
  have whole : config.errorBlocks = before ++ ([block] ++ after) := split
  rw [handlers_errorTable, SortedMap.get?_ofList, whole, pairs_append, pairs_append,
    List.reverse_append, List.reverse_append, List.find?_append, List.find?_append,
    find?_pairs_of_unlisted later, found]
  exact congrArg some own

/-- The block that an error is left to: the last one that lists the first kind of the error that is
listed at all; the last one that lists the wildcard, if no kind of the error is listed; or none. -/
inductive Dispatched (blocks : List ErrorBlock) (error : GatewayError) : Option ErrorBlock → Prop where
  | kind {earlier later : List String} {kind : String} {block : ErrorBlock}
      (split : error.kinds = earlier ++ kind :: later)
      (skipped : ∀ other ∈ earlier, Unlisted blocks other) (last : Last blocks kind block) :
      Dispatched blocks error (some block)
  | wildcard {block : ErrorBlock} (skipped : ∀ kind ∈ error.kinds, Unlisted blocks kind)
      (last : Last blocks wildcardKind block) : Dispatched blocks error (some block)
  | page (skipped : ∀ kind ∈ error.kinds, Unlisted blocks kind)
      (unlisted : Unlisted blocks wildcardKind) : Dispatched blocks error none

theorem exists_dispatched (blocks : List ErrorBlock) (error : GatewayError) :
    ∃ choice, Dispatched blocks error choice := by
  have first (kinds : List String) : (∀ kind ∈ kinds, Unlisted blocks kind) ∨
      ∃ earlier kind later block, kinds = earlier ++ kind :: later ∧
        (∀ other ∈ earlier, Unlisted blocks other) ∧ Last blocks kind block := by
    induction kinds with
    | nil => exact .inl fun kind member => absurd member List.not_mem_nil
    | cons head rest induction =>
        rcases unlisted_or_last blocks head with unlisted | ⟨block, last⟩
        · rcases induction with skipped | ⟨earlier, kind, later, block, split, skipped, last⟩
          · exact .inl (List.forall_mem_cons.mpr ⟨unlisted, skipped⟩)
          · exact .inr ⟨head :: earlier, kind, later, block, by rw [split]; rfl,
              List.forall_mem_cons.mpr ⟨unlisted, skipped⟩, last⟩
        · exact .inr ⟨[], head, rest, block, rfl, by simp, last⟩
  rcases first error.kinds with skipped | ⟨earlier, kind, later, block, split, skipped, last⟩
  · rcases unlisted_or_last blocks wildcardKind with unlisted | ⟨block, last⟩
    · exact ⟨none, .page skipped unlisted⟩
    · exact ⟨some block, .wildcard skipped last⟩
  · exact ⟨some block, .kind split skipped last⟩

theorem findSome?_handlers_of_unlisted {kinds : List String}
    (unlisted : ∀ kind ∈ kinds, Unlisted config.errorBlocks kind) :
    kinds.findSome? config.errorTable.handlers.get? = none :=
  List.findSome?_eq_none_iff.mpr fun kind member => get?_handlers_of_unlisted (unlisted kind member)

/-- The table of a route selects the handler of the block that the error is left to. -/
theorem select_of_dispatched {error : GatewayError} {choice : Option ErrorBlock}
    (dispatched : Dispatched config.errorBlocks error choice) :
    config.errorTable.select error = choice.map ErrorBlock.handler := by
  unfold ErrorTable.select
  rw [List.findSome?_append]
  cases dispatched with
  | kind split skipped last =>
      rw [split, List.findSome?_append, findSome?_handlers_of_unlisted skipped, List.findSome?_cons,
        get?_handlers_of_last last]
      rfl
  | wildcard skipped last =>
      rw [findSome?_handlers_of_unlisted skipped, List.findSome?_cons, get?_handlers_of_last last]
      rfl
  | page skipped unlisted =>
      rw [findSome?_handlers_of_unlisted skipped, List.findSome?_cons,
        get?_handlers_of_unlisted unlisted]
      rfl

end RouteConfig

/-- What a handler makes of a request that an error is stored with. Its fields of the log are recorded
up to the first that cannot be rendered. It answers with its configured response, whose headers are
changed up to the first change at fault; only a response that cannot be built is an error. -/
structure ErrorHandler.Answers (handler : ErrorHandler) (environment : Environment)
    (request : Request) (log : LogFields) (served : Served) : Prop where
  recorded : ∃ done failure, CarriedOut
    (Policy.fieldFault (.ofRequest environment (RequestView.of request)))
    (Policy.record (.ofRequest environment (RequestView.of request)))
    (handler.policy.getD {}).customLogFields done log (served.log, failure)
  failed : ∀ error, handler.answer.toResponse environment (RequestView.of request) = .error error →
    served.outcome = .error error
  answered : ∀ response,
    handler.answer.toResponse environment (RequestView.of request) = .ok response →
    ∃ answer done failure, served.outcome = .ok answer ∧
      answer.status = response.status ∧ answer.body = response.body ∧
      CarriedOut
        (HeaderChange.fault ⟨environment, RequestView.of request, some (ResponseView.of response)⟩)
        (HeaderChange.effect ⟨environment, RequestView.of request, some (ResponseView.of response)⟩)
        (handler.policy.getD {}).response.changes done response.headers (answer.headers, failure)

namespace ErrorHandler

variable {environment : Environment} {freshId : String} {request : Request} {log : LogFields}

theorem log_recordLogFields (policy : Policy) (environment : Environment) (freshId : String)
    (state : Policy.Logged) :
    (policy.recordLogFields environment freshId state).1.log =
      (Policy.recordFields (.ofRequest environment (RequestView.of state.request)) state.log
        policy.customLogFields).1 := by
  unfold Policy.recordLogFields
  split
  · rename_i empty
    rw [List.isEmpty_iff.mp empty]
    rfl
  · rfl

theorem log_recordFields (handler : ErrorHandler) (environment : Environment) (freshId : String)
    (state : Policy.Logged) :
    (ErrorTable.recordFields handler environment freshId state).log =
      (Policy.recordFields (.ofRequest environment (RequestView.of state.request)) state.log
        (handler.policy.getD {}).customLogFields).1 := by
  unfold ErrorTable.recordFields
  cases handler.policy with
  | none => rfl
  | some policy => exact log_recordLogFields policy environment freshId state

/-- Recording attaches a context to a request that has none, and does nothing else to it. -/
theorem request_recordFields (handler : ErrorHandler) (environment : Environment)
    (freshId : String) {state : Policy.Logged} (attached : state.request.context.isSome = true) :
    (ErrorTable.recordFields handler environment freshId state).request = state.request := by
  unfold ErrorTable.recordFields Policy.recordLogFields
  cases handler.policy with
  | none => rfl
  | some policy =>
      dsimp only
      split
      · rfl
      · exact Request.withContext_of_isSome attached freshId

theorem respond_of_answered {handler : ErrorHandler} {response : Response}
    (answered : handler.answer.toResponse environment (RequestView.of request) = .ok response) :
    handler.respond environment request =
      .ok ((handler.policy.getD {}).applyToResponse environment (RequestView.of request) response).1 := by
  unfold respond
  dsimp only
  rw [answered]
  cases handler.policy <;> rfl

theorem answers_recorded (handler : ErrorHandler) (environment : Environment) (freshId : String)
    (log : LogFields) (attached : request.context.isSome = true) :
    let recorded := ErrorTable.recordFields handler environment freshId ⟨request, log⟩
    handler.Answers environment request log
      ⟨handler.respond environment recorded.request, recorded.log⟩ := by
  intro recorded
  have same : recorded.request = request :=
    request_recordFields handler environment freshId attached
  rw [same]
  let policy := handler.policy.getD {}
  constructor
  · let scope := Scope.ofRequest environment (RequestView.of request)
    obtain ⟨done, carried⟩ := @carriedOut_carryOut _ _ (Policy.fieldFault scope)
      (Policy.record scope) policy.customLogFields log
    rw [← Policy.recordFields_eq] at carried
    refine ⟨done, (Policy.recordFields scope log policy.customLogFields).2, ?_⟩
    rw [log_recordFields]
    exact carried
  · intro error failed
    dsimp only
    rw [respond, failed]
    rfl
  · intro response answered
    let scope : Scope :=
      ⟨environment, RequestView.of request, some (ResponseView.of response)⟩
    obtain ⟨done, carried⟩ := @carriedOut_carryOut _ _ (HeaderChange.fault scope)
      (HeaderChange.effect scope) policy.response.changes response.headers
    rw [← HeaderChange.applyAll_eq] at carried
    exact ⟨_, done, _, respond_of_answered answered, rfl, rfl, carried⟩

end ErrorHandler

namespace RouteConfig

/-- An error is answered by the block that it is left to, whichever fields and changes of that block
fail, and by the error page where it is left to none. -/
theorem answers_by_kind (config : RouteConfig) (environment : Environment) (freshId : String)
    (state : Policy.Logged) (error : GatewayError) :
    let request := ErrorTable.store freshId error state.request
    let served := config.errorTable.serveError environment freshId state error
    (∃ choice, Dispatched config.errorBlocks error choice) ∧
      ∀ choice, Dispatched config.errorBlocks error choice →
        match choice with
        | none => served.outcome = .ok (config.page.serve request error) ∧ served.log = state.log
        | some block => block.handler.Answers environment request state.log served := by
  intro request served
  refine ⟨exists_dispatched config.errorBlocks error, ?_⟩
  intro choice dispatched
  have selected := select_of_dispatched dispatched
  have attached : request.context.isSome = true := rfl
  dsimp only [served]
  rw [ErrorTable.serveError_eq, selected]
  cases choice with
  | none => exact ⟨rfl, rfl⟩
  | some block => exact ErrorHandler.answers_recorded block.handler environment freshId state.log attached

def carelessBlock : ErrorBlock where
  kinds := ["*", " backend "]
  handler := {
    answer := { status := some 599 }
    policy := some {
      response := { set := [("x-none", "$\x7bnowhere\x7d")] }
      customLogFields := [("at", "$\x7brequest.path\x7d"), ("by", "$\x7bnowhere\x7d")] } }

def outdone : RouteConfig where
  errorBlocks := [{ kinds := ["backend"] }, carelessBlock, { kinds := ["*", "backend_refused"] }]

/-- Of two blocks that list the kind of the error the later one answers, its faults notwithstanding. -/
theorem answers_by_kind_carelessly :
    let served := outdone.errorTable.serveError [] "r" ⟨default, []⟩ (.backendTimeout "slow")
    Dispatched outdone.errorBlocks (.backendTimeout "slow") (some carelessBlock) ∧
      ∃ answer, served.outcome = .ok answer ∧ answer.status = ⟨599, by decide⟩ := by
  intro served
  have dispatched : Dispatched outdone.errorBlocks (.backendTimeout "slow") (some carelessBlock) := by
    refine .kind (show _ = ["backend_timeout"] ++ "backend" :: [] from rfl) ?_ ?_
    · simp only [ErrorBlock.Unlisted, ErrorBlock.Lists]
      decide
    · refine ⟨[{ kinds := ["backend"] }], [{ kinds := ["*", "backend_refused"] }], rfl, ?_, ?_⟩
      · exact ⟨" backend ", by decide, by decide⟩
      · simp only [ErrorBlock.Unlisted, ErrorBlock.Lists]
        decide
  have answers := (answers_by_kind outdone [] "r" ⟨default, []⟩ (.backendTimeout "slow")).2 _ dispatched
  obtain ⟨answer, _, _, ended, status, _⟩ := answers.answered _ rfl
  exact ⟨dispatched, answer, ended, status⟩

end RouteConfig

end Gateway
