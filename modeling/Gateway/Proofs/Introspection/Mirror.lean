import Gateway.Proofs.Introspection.Scheduling

/-!
A run and the run of one token's calls alone, side by side. The second mirrors the first if the
lane, the entry, the requests, the writes and the planned events of the token are the same in both,
with its calls under other numbers. Whatever a call for the token does in both keeps them so, and
what other calls do in the first alone changes nothing of it.
-/

namespace Gateway.Introspection

/-- The server's answers to the requests for a token depend on their number alone. -/
def Server.PerToken (server : Server) : Prop :=
  ∃ answer : String → Nat → Reply, ∀ earlier sent, server earlier sent =
    answer sent.token (earlier.countP fun other => other.token = sent.token)

namespace State

/-- The calls that are singled out are for the token, and so are no others but finished ones. -/
structure Owned (token : String) (mine : CallId → Bool) (state : State) : Prop where
  tokens : ∀ id call, mine id = true → state.calls[id]? = some call → call.token = token
  others : ∀ id call phase, state.calls[id]? = some call → state.standings[id]? = some phase →
    call.token = token → mine id = true ∨ ∃ result finish, phase = .done result finish

/-- The calls that are singled out stand in the one world, under other numbers, as in the other. -/
def Placed (mine : CallId → Bool) (place : CallId → CallId) (whole part : World) : Prop :=
  ∀ id call phase, mine id = true → whole.calls[id]? = some call →
    whole.standings[id]? = some phase →
    part.calls[place id]? = some call ∧ part.standings[place id]? = some phase

def Distinct (mine : CallId → Bool) (place : CallId → CallId) : Prop :=
  ∀ first second, mine first = true → mine second = true → place first = place second →
    first = second

def excerpt (mine : CallId → Bool) (place : CallId → CallId) (agenda : List (Timed CallId)) :
    List (Timed CallId) :=
  (agenda.filter fun entry => mine entry.item).map (Timed.rename place)

structure Mirrors (token : String) (mine : CallId → Bool) (place : CallId → CallId)
    (whole part : State) : Prop where
  entry : part.store.entryAt? (storeKey token) = whole.store.entryAt? (storeKey token)
  lane : part.table.lane token = (whole.table.lane token).rename place
  placed : Placed mine place whole.toWorld part.toWorld
  agenda : part.agenda = excerpt mine place whole.agenda
  sent : (part.sent.filter fun sent => sent.token = token) =
    whole.sent.filter fun sent => sent.token = token
  writes : (part.writes.filter fun write => write.key = storeKey token) =
    whole.writes.filter fun write => write.key = storeKey token

variable {setting : Setting} {token : String} {mine : CallId → Bool} {place : CallId → CallId}
  {whole part : State} {call : Call} {id : CallId} {phase : Phase}

theorem Placed.set (placed : Placed mine place whole.toWorld part.toWorld)
    (distinct : Distinct mine place) (own : mine id = true)
    (called : whole.calls[id]? = some call) (inside : id < whole.standings.length)
    (phase : Phase) :
    Placed mine place (whole.toWorld.setPhase id phase)
      (part.toWorld.setPhase (place id) phase) := by
  intro other calling stands ownOther calledOther place'
  by_cases same : id = other
  · subst same
    have stood := List.getElem?_eq_getElem inside
    obtain ⟨calledPart, stoodPart⟩ := placed id call _ own called stood
    obtain ⟨bound, placed⟩ := List.getElem?_eq_some_iff.mp place'
    obtain ⟨boundPart, _⟩ := List.getElem?_eq_some_iff.mp stoodPart
    obtain rfl : phase = stands := by simpa [World.setPhase] using placed
    obtain rfl := Option.some.inj (called.symm.trans calledOther)
    exact ⟨calledPart, World.stood_setPhase boundPart phase⟩
  · have apart : place id ≠ place other := fun equal => same (distinct id other own ownOther equal)
    rw [World.setPhase, List.getElem?_set_ne same] at place'
    rw [World.setPhase, List.getElem?_set_ne apart]
    exact placed other calling stands ownOther calledOther place'

theorem excerpt_cons_own {event : Timed CallId} (own : mine event.item = true)
    (rest : List (Timed CallId)) :
    excerpt mine place (event :: rest) = Timed.rename place event :: excerpt mine place rest := by
  simp [excerpt, own]

theorem excerpt_cons_other {event : Timed CallId} (foreign : mine event.item = false)
    (rest : List (Timed CallId)) :
    excerpt mine place (event :: rest) = excerpt mine place rest := by
  simp [excerpt, foreign]

theorem excerpt_enter {agenda : List (Timed CallId)} (inOrder : Timed.InOrder agenda)
    (own : mine id = true) (time : Nat) :
    excerpt mine place (Timed.enter ⟨time, id⟩ agenda) =
      Timed.enter ⟨time, place id⟩ (excerpt mine place agenda) := by
  have chosen : (fun entry : Timed CallId => mine entry.item) ⟨time, id⟩ = true := own
  unfold excerpt
  rw [Timed.filter_enter_pos inOrder chosen, Timed.map_rename_enter]
  rfl

theorem excerpt_enter_other {entry : Timed CallId} (foreign : mine entry.item = false)
    (agenda : List (Timed CallId)) :
    excerpt mine place (Timed.enter entry agenda) = excerpt mine place agenda := by
  have chosen : (fun entry : Timed CallId => mine entry.item) entry = false := foreign
  unfold excerpt
  rw [Timed.filter_enter_neg chosen]

theorem Owned.confined {after : State} (owned : Owned token mine whole)
    (confined : World.Confined call.token id whole.toWorld after.toWorld)
    (called : whole.calls[id]? = some call) (moving : mine id = true ∨ call.token ≠ token) :
    Owned token mine after := by
  refine ⟨?_, ?_⟩
  · rw [confined.calls]
    exact owned.tokens
  · intro other calling phase calledOther stood same
    rw [confined.calls] at calledOther
    by_cases moved : other = id
    · subst moved
      obtain rfl := Option.some.inj (called.symm.trans calledOther)
      rcases moving with own | foreign
      · exact .inl own
      · exact absurd same foreign
    · rw [confined.others other moved] at stood
      exact owned.others other calling phase calledOther stood same

/-- Who stands in line for a lock of the token is singled out. -/
theorem Owned.line {generation : Nat} (owned : Owned token mine whole)
    (disciplined : whole.toWorld.Disciplined)
    (inLine : id ∈ ((whole.table.lane token).lock generation).waiting) : mine id = true := by
  have queued := (disciplined.tended token).queued generation
  obtain ⟨phase, stands, waits⟩ := queued.line_queued id inLine
  obtain ⟨calling, called, same, stood⟩ := World.exists_call_of_standing stands
  rcases owned.others id calling phase called stood same with own | ⟨result, finish, rfl⟩
  · exact own
  · cases waits

/-- A call for another token changes nothing of it. -/
theorem Mirrors.foreign {after : State} (mirrors : Mirrors token mine place whole part)
    (owned : Owned token mine whole)
    (confined : World.Confined call.token id whole.toWorld after.toWorld)
    (added : Extends call.token whole after) (apart : call.token ≠ token)
    (notMine : mine id = false) : Mirrors token mine place after part := by
  obtain ⟨entry, lane, placed, agenda, sent, writes⟩ := mirrors
  refine ⟨?_, ?_, ?_, ?_, ?_, ?_⟩
  · rw [entry, confined.entries token (Ne.symm apart)]
  · rw [lane, confined.lanes token (Ne.symm apart)]
  · intro other calling phase own called stood
    have different : other ≠ id := by
      rintro rfl
      simp [notMine] at own
    rw [confined.calls] at called
    rw [confined.others other different] at stood
    exact placed other calling phase own called stood
  · rcases added.agenda with same | ⟨entry, entered, calling, called, foreign⟩
    · rw [same, agenda]
    · have unnamed : mine entry.item = false := by
        by_contra own
        have named := owned.tokens entry.item calling (by simpa using own) called
        exact apart (foreign.symm.trans named)
      rw [entered, excerpt_enter_other unnamed, agenda]
  · obtain ⟨more, sentMore, foreign⟩ := confined.sent
    have none : more.filter (fun sent => sent.token = token) = [] := by
      apply List.filter_eq_nil_iff.mpr
      intro sent member
      simp [(foreign sent member).1, apart]
    rw [sentMore, List.filter_append, none, List.append_nil, sent]
  · obtain ⟨more, written, foreign⟩ := added.writes
    have none : more.filter (fun write => write.key = storeKey token) = [] := by
      apply List.filter_eq_nil_iff.mpr
      intro write member
      simp [foreign write member, storeKey_ne apart]
    rw [written, List.filter_append, none, List.append_nil, writes]

/-- A singled out call is going on in both states. -/
structure Alongside (token : String) (mine : CallId → Bool) (place : CallId → CallId) (id : CallId)
    (call : Call) (whole part : State) : Prop where
  mirrors : Mirrors token mine place whole part
  distinct : Distinct mine place
  owned : Owned token mine whole
  disciplined : whole.toWorld.Disciplined
  inOrder : Timed.InOrder whole.agenda
  sameTime : part.now = whole.now
  own : mine id = true
  called : whole.calls[id]? = some call
  inside : id < whole.standings.length

namespace Alongside

theorem token_eq (alongside : Alongside token mine place id call whole part) :
    call.token = token :=
  alongside.owned.tokens id call alongside.own alongside.called

theorem finish (alongside : Alongside token mine place id call whole part) (held : Option Nat)
    (result : Except GatewayError Claims) :
    Mirrors token mine place (whole.finish id token held result)
      (part.finish (place id) token held result) := by
  obtain ⟨mirrors, distinct, owned, disciplined, inOrder, sameTime, own, called, inside⟩ :=
    alongside
  have placed := mirrors.placed.set distinct own called inside (.done result whole.now)
  cases held with
  | none =>
      rw [finish_none, finish_none, sameTime]
      exact ⟨mirrors.entry, mirrors.lane, placed, mirrors.agenda, mirrors.sent, mirrors.writes⟩
  | some generation =>
      rw [finish_some, finish_some, sameTime]
      refine ⟨mirrors.entry, ?_, placed, ?_, mirrors.sent, mirrors.writes⟩
      · simp only [World.setPhase, World.setLane, LockTable.lane_setLane, if_pos]
        rw [mirrors.lane, Lane.forget_rename, Lane.handOver_rename]
      · rw [mirrors.lane, Lane.rename_lock, List.head?_map]
        cases next : ((whole.table.lane token).lock generation).waiting.head? with
        | none => exact mirrors.agenda
        | some first =>
            have ownFirst := owned.line disciplined (List.mem_of_head? next)
            simp only [Option.map_some, Option.elim_some]
            rw [excerpt_enter inOrder ownFirst, mirrors.agenda]

/-- Neither calls nor standings, lanes or plans have to change for a step of both. -/
theorem congr {whole' part' : State} (alongside : Alongside token mine place id call whole part)
    (mirrors : Mirrors token mine place whole' part') (calls : whole'.calls = whole.calls)
    (standings : whole'.standings = whole.standings) (table : whole'.table = whole.table)
    (agenda : whole'.agenda = whole.agenda) (sameTime : part'.now = whole'.now) :
    Alongside token mine place id call whole' part' := by
  obtain ⟨_, distinct, owned, disciplined, inOrder, _, own, called, inside⟩ := alongside
  refine ⟨mirrors, distinct, ⟨?_, ?_⟩, disciplined.congr calls standings table, ?_, sameTime, own,
    ?_, ?_⟩
  · rw [calls]
    exact owned.tokens
  · rw [calls, standings]
    exact owned.others
  · rw [agenda]
    exact inOrder
  · rw [calls]
    exact called
  · rw [standings]
    exact inside

theorem keep (alongside : Alongside token mine place id call whole part) (write : Write) :
    Alongside token mine place id call
      { whole with toWorld := whole.toWorld.keep write, writes := whole.writes ++ [write] }
      { part with toWorld := part.toWorld.keep write, writes := part.writes ++ [write] } := by
  have mirrors := alongside.mirrors
  refine alongside.congr ?_ rfl rfl rfl rfl alongside.sameTime
  refine ⟨?_, mirrors.lane, mirrors.placed, mirrors.agenda, mirrors.sent, ?_⟩
  · simp only [World.keep, Store.entryAt_set, alongside.sameTime, mirrors.entry]
  · simp only [List.filter_append, mirrors.writes]

theorem send (alongside : Alongside token mine place id call whole part) (sent : Sent) :
    Alongside token mine place id call { whole with toWorld := whole.toWorld.send sent }
      { part with toWorld := part.toWorld.send sent } := by
  have mirrors := alongside.mirrors
  refine alongside.congr ?_ rfl rfl rfl rfl alongside.sameTime
  refine ⟨mirrors.entry, mirrors.lane, mirrors.placed, mirrors.agenda, ?_, mirrors.writes⟩
  simp only [World.send, List.filter_append, mirrors.sent]

theorem look (alongside : Alongside token mine place id call whole part) :
    (part.toWorld.look token).1 = (whole.toWorld.look token).1 ∧
      Alongside token mine place id call
        { whole with toWorld := (whole.toWorld.look token).2 }
        { part with toWorld := (part.toWorld.look token).2 } := by
  have mirrors := alongside.mirrors
  constructor
  · simp only [World.look, Store.get_fst, alongside.sameTime]
    rw [Store.live_congr mirrors.entry]
  · refine alongside.congr ?_ rfl rfl rfl rfl alongside.sameTime
    refine ⟨?_, mirrors.lane, mirrors.placed, mirrors.agenda, mirrors.sent, mirrors.writes⟩
    simp only [World.look, Store.entryAt_get_self, alongside.sameTime, mirrors.entry]

theorem receive (alongside : Alongside token mine place id call whole part) (setting : Setting)
    (held : Option Nat) (reply : Reply) :
    Mirrors token mine place (whole.receive setting id call held reply)
      (part.receive setting (place id) call held reply) := by
  unfold State.receive
  rw [alongside.token_eq]
  split
  · exact alongside.finish _ _
  · exact alongside.finish _ _
  · rename_i claims bytes generation judged
    have sameWrite : part.toWorld.writeOf setting call claims bytes =
        whole.toWorld.writeOf setting call claims bytes := by
      simp [World.writeOf, alongside.sameTime]
    simp only [sameWrite]
    exact (alongside.keep _).finish _ _

/-- The server says the same, as it counts the requests for the token alone. -/
theorem ask (alongside : Alongside token mine place id call whole part)
    (perToken : setting.server.PerToken) (held : Option Nat) :
    Mirrors token mine place (whole.ask setting id call held)
      (part.ask setting (place id) call held) := by
  unfold State.ask
  rw [alongside.token_eq]
  split
  · exact alongside.finish _ _
  · rename_i request made
    have sameSent : part.toWorld.sending token request = whole.toWorld.sending token request := by
      simp [World.sending, alongside.sameTime]
    have sameReply : setting.server part.sent (whole.toWorld.sending token request) =
        setting.server whole.sent (whole.toWorld.sending token request) := by
      obtain ⟨answer, answers⟩ := perToken
      have counted := congrArg List.length alongside.mirrors.sent
      rw [answers, answers, List.countP_eq_length_filter, List.countP_eq_length_filter]
      exact congrArg (answer token) counted
    have asked := alongside.send (whole.toWorld.sending token request)
    simp only [sameSent, sameReply]
    generalize setting.server whole.sent (whole.toWorld.sending token request) = reply
    split
    · exact asked.receive setting held reply
    · have mirrors := asked.mirrors
      have placed := mirrors.placed.set asked.distinct asked.own asked.called asked.inside
        (.calling held reply)
      have later := asked.sameTime
      refine ⟨mirrors.entry, mirrors.lane, placed, ?_, mirrors.sent, mirrors.writes⟩
      simp only [schedule, setPhase]
      rw [excerpt_enter asked.inOrder asked.own, ← mirrors.agenda, later]

theorem enter (alongside : Alongside token mine place id call whole part)
    (perToken : setting.server.PerToken) (generation : Nat) :
    Mirrors token mine place (whole.enter setting id call generation)
      (part.enter setting (place id) call generation) := by
  obtain ⟨sameFound, read⟩ := alongside.look
  unfold State.enter
  rw [alongside.token_eq]
  simp only [sameFound]
  split
  · exact read.finish _ _
  · exact read.ask perToken _

/-- Both get in line for the same generation, and both take it or neither does. -/
theorem lineUp_same (alongside : Alongside token mine place id call whole part) :
    (part.lineUp (place id) token).1 = (whole.lineUp id token).1 ∧
      (part.lineUp (place id) token).2.1 = (whole.lineUp id token).2.1 := by
  have sameLane := alongside.mirrors.lane
  constructor
  · rw [lineUp_taken, lineUp_taken, sameLane, Lane.openLock_rename, Lane.acquire_rename]
  · rw [lineUp_generation, lineUp_generation, sameLane, Lane.openLock_rename]

theorem lineUp (alongside : Alongside token mine place id call whole part)
    (keeps : ¬setting.ttl ≤ 0) (stood : whole.standings[id]? = some .starting) :
    Alongside token mine place id call (whole.lineUp id token).2.2
      (part.lineUp (place id) token).2.2 := by
  have sameToken := alongside.token_eq
  obtain ⟨_, sameGeneration⟩ := alongside.lineUp_same
  obtain ⟨mirrors, distinct, owned, disciplined, inOrder, sameTime, own, called, inside⟩ :=
    alongside
  have lined : World.Pursued setting id whole.toWorld (whole.lineUp id call.token).2.2.toWorld :=
    lineUp_pursued keeps called stood
  rw [sameToken] at lined
  have confined := lined.confined called
  have placed := mirrors.placed.set distinct own called inside
    (.waiting (whole.lineUp id token).2.1)
  refine ⟨⟨mirrors.entry, ?_, ?_, mirrors.agenda, mirrors.sent, mirrors.writes⟩, distinct,
    owned.confined confined called (.inl own), disciplined.pursue lined, inOrder, sameTime, own,
    called, ?_⟩
  · rw [lineUp_lane, lineUp_lane, mirrors.lane, Lane.openLock_rename, Lane.acquire_rename]
  · rw [lineUp_generation, lineUp_generation] at sameGeneration
    rw [lineUp_toWorld, lineUp_toWorld, sameGeneration]
    exact placed
  · rw [lineUp_toWorld]
    simpa [World.setPhase, World.setLane] using inside

theorem begin (alongside : Alongside token mine place id call whole part)
    (perToken : setting.server.PerToken) (stood : whole.standings[id]? = some .starting) :
    Mirrors token mine place (whole.begin setting id call)
      (part.begin setting (place id) call) := by
  unfold State.begin
  rw [alongside.token_eq]
  split
  · exact alongside.ask perToken none
  · rename_i keeps
    obtain ⟨sameTaken, sameGeneration⟩ := alongside.lineUp_same
    have inLine := alongside.lineUp keeps stood
    simp only [sameTaken, sameGeneration]
    split
    · exact inLine.enter perToken _
    · exact inLine.mirrors

theorem resume (alongside : Alongside token mine place id call whole part)
    (perToken : setting.server.PerToken) :
    Mirrors token mine place (whole.resume setting id) (part.resume setting (place id)) := by
  have called := alongside.called
  obtain ⟨phase, stood⟩ : ∃ phase, whole.standings[id]? = some phase :=
    ⟨_, List.getElem?_eq_getElem alongside.inside⟩
  obtain ⟨calledPart, stoodPart⟩ :=
    alongside.mirrors.placed id call phase alongside.own called stood
  unfold State.resume
  cases phase with
  | starting =>
      simp only [called, stood, calledPart, stoodPart]
      exact alongside.begin perToken stood
  | waiting generation =>
      simp only [called, stood, calledPart, stoodPart]
      exact alongside.enter perToken generation
  | calling generation reply =>
      simp only [called, stood, calledPart, stoodPart]
      exact alongside.receive setting generation reply
  | _ =>
      simp only [called, stood, calledPart, stoodPart]
      exact alongside.mirrors

end Alongside

end State

end Gateway.Introspection
