import Gateway.Proofs.Introspection.Rounds

/-!
The stages of a round of calls for one token over a store without a live entry for it. Before the
first request all calls are still to start. While it is in the air, its call holds the only lock,
and whoever starts gets in line. Once its answer is in the store, everyone finds it there, until the
entry has expired; by then all calls that started earlier are done.
-/

namespace Gateway.Introspection

/-- The first millisecond at which a written entry is dead. -/
def Write.expiresAt (write : Write) : Nat := write.time + write.ttl.toNat * 1000

/-- The write of a good reply: how long it is kept depends on the claims and on the asking call. -/
structure Delivered (setting : Setting) (token : String) (first : Sent) (reply : Reply)
    (claims : Claims) (bytes : Bytes) (opener : Call) (write : Write) : Prop where
  key : write.key = storeKey token
  value : write.value = bytes
  ttl : write.ttl =
    cacheTtl setting.ttl claims opener.expiry opener.notBefore (setting.wall write.time)
  time : write.time = first.time + setting.introspector.duration reply

theorem Delivered.time_lt {setting : Setting} {token : String} {first : Sent} {reply : Reply}
    {claims : Claims} {bytes : Bytes} {opener : Call} {write : Write}
    (delivered : Delivered setting token first reply claims bytes opener write)
    (positive : 0 < write.ttl) : first.time < write.expiresAt := by
  have time := delivered.time
  unfold Write.expiresAt
  omega

namespace State

def StartsAt (state : State) (entry : Timed CallId) : Prop :=
  ∃ call, state.calls[entry.item]? = some call ∧
    state.standings[entry.item]? = some .starting ∧ entry.time = call.start

structure Before (base state : State) : Prop where
  sent : state.sent = base.sent
  writes : state.writes = []
  store : state.store = base.store
  since : base.now ≤ state.now
  places : ∀ id phase, base.calls.length ≤ id → state.standings[id]? = some phase →
    phase = .starting
  agenda : ∀ entry ∈ state.agenda, state.StartsAt entry

/-- The first request is in the air; its reply is due at some time. -/
structure Airborne (token : String) (base : State) (first : Sent) (reply : Reply) (due : Nat)
    (id : CallId) (generation : Nat) (state : State) : Prop where
  own : base.calls.length ≤ id
  stood : state.standings[id]? = some (.calling (some generation) reply)
  sent : state.sent = base.sent ++ [first]
  writes : state.writes = []
  current : (state.table.lane token).current = some generation
  places : ∀ other phase, base.calls.length ≤ other → other ≠ id →
    state.standings[other]? = some phase → phase = .starting ∨ phase = .waiting generation
  agenda : ∀ entry ∈ state.agenda, entry = ⟨due, id⟩ ∨ state.StartsAt entry

/-- The first request is about to be answered. -/
structure Landing (base : State) (first : Sent) (id : CallId) (state : State) : Prop where
  sent : state.sent = base.sent ++ [first]
  writes : state.writes = []
  places : ∀ other phase, base.calls.length ≤ other → other ≠ id →
    state.standings[other]? = some phase → phase = .starting ∨ ∃ generation,
      phase = .waiting generation
  agenda : ∀ entry ∈ state.agenda, state.StartsAt entry

structure Landed (token : String) (base : State) (first : Sent) (claims : Claims) (bytes : Bytes)
    (limit : Nat) (state : State) : Prop where
  sent : state.sent = base.sent ++ [first]
  kept : state.store.entryAt? (storeKey token) = some ⟨bytes, limit⟩
  early : state.now < limit
  places : ∀ id phase, base.calls.length ≤ id → state.standings[id]? = some phase →
    phase = .starting ∨ (∃ generation, phase = .waiting generation) ∨
      ∃ finish, phase = .done (.ok claims) finish
  agenda : ∀ entry ∈ state.agenda, entry.time < limit ∨ state.StartsAt entry

/-- The entry has expired, and every call that started before has its answer. -/
structure Expired (base : State) (first : Sent) (claims : Claims) (limit : Nat) (state : State) :
    Prop where
  sent : ∃ rest, state.sent = base.sent ++ first :: rest ∧ ∀ other ∈ rest, limit ≤ other.time
  late : limit ≤ state.now
  served : ∀ id call, base.calls.length ≤ id → state.calls[id]? = some call →
    call.start < limit → ∃ finish, state.standings[id]? = some (.done (.ok claims) finish)

variable {setting : Setting} {base state after : State} {call : Call} {id : CallId}
  {token : String} {launched : List Call} {first : Sent} {reply : Reply} {claims : Claims}
  {bytes : Bytes} {limit due generation : Nat} {running : Option CallId}

theorem StartsAt.transfer {entry : Timed CallId} (starts : state.StartsAt entry)
    (calls : after.calls = state.calls)
    (same : after.standings[entry.item]? = state.standings[entry.item]?) :
    after.StartsAt entry := by
  obtain ⟨call, called, stood, time⟩ := starts
  exact ⟨call, calls ▸ called, same.trans stood, time⟩

theorem Planned.item_ne {entry : Timed CallId} (planned : Planned (some id) state)
    (member : entry ∈ state.agenda) : id ≠ entry.item := by
  have named := (planned.named entry.item).mp (List.mem_map_of_mem member)
  simpa using named.2

theorem StartsAt.set {entry : Timed CallId} {phase : Phase} (starts : state.StartsAt entry)
    (apart : id ≠ entry.item) (calls : after.calls = state.calls)
    (standings : after.standings = state.standings.set id phase) : after.StartsAt entry := by
  apply starts.transfer calls
  rw [standings, List.getElem?_set_ne apart]

theorem mem_finish_agenda {entry : Timed CallId} {held : Option Nat}
    {result : Except GatewayError Claims}
    (member : entry ∈ (state.finish id token held result).agenda) :
    entry ∈ state.agenda ∨ entry.time = state.now := by
  cases held with
  | none => exact .inl member
  | some generation =>
      rw [finish_some] at member
      cases next : ((state.table.lane token).lock generation).waiting.head? with
      | none =>
          simp only [next, Option.elim_none] at member
          exact .inl member
      | some first =>
          simp only [next, Option.elim_some, Timed.mem_enter] at member
          rcases member with rfl | old
          · exact .inr rfl
          · exact .inl old

namespace Landed

/-- A call leaves with the answer, while it is in the store and the others are well placed. -/
theorem of_finish (sent : state.sent = base.sent ++ [first])
    (kept : state.store.entryAt? (storeKey token) = some ⟨bytes, limit⟩) (early : state.now < limit)
    (places : ∀ other phase, base.calls.length ≤ other → other ≠ id →
      state.standings[other]? = some phase → phase = .starting ∨
        (∃ generation, phase = .waiting generation) ∨ ∃ finish, phase = .done (.ok claims) finish)
    (agenda : ∀ entry ∈ state.agenda, entry.time < limit ∨ state.StartsAt entry)
    (planned : Planned (some id) state) (held : Option Nat) :
    Landed token base first claims bytes limit (state.finish id token held (.ok claims)) := by
  have standings := finish_standings state id token held (.ok claims)
  have unmoved : (state.finish id token held (.ok claims)).store = state.store ∧
      (state.finish id token held (.ok claims)).now = state.now ∧
      (state.finish id token held (.ok claims)).calls = state.calls := by
    cases held with
    | none => exact ⟨rfl, rfl, rfl⟩
    | some generation =>
        rw [finish_some]
        exact ⟨rfl, rfl, rfl⟩
  obtain ⟨sameStore, sameTime, sameCalls⟩ := unmoved
  refine ⟨by rw [finish_sent, sent], by rw [sameStore, kept], by rwa [sameTime], ?_, ?_⟩
  · intro other phase own stood
    rw [standings] at stood
    by_cases same : id = other
    · subst same
      obtain ⟨bound, placed⟩ := List.getElem?_eq_some_iff.mp stood
      exact .inr (.inr ⟨state.now, by simpa [eq_comm] using placed⟩)
    · rw [List.getElem?_set_ne same] at stood
      exact places other phase own (Ne.symm same) stood
  · intro entry member
    rcases mem_finish_agenda member with old | present
    · exact (agenda entry old).imp_right fun starts =>
        starts.set (planned.item_ne old) sameCalls standings
    · exact .inl (present ▸ early)

theorem finish (landed : Landed token base first claims bytes limit state)
    (planned : Planned (some id) state) (held : Option Nat) :
    Landed token base first claims bytes limit (state.finish id token held (.ok claims)) :=
  of_finish landed.sent landed.kept landed.early
    (fun other phase own _ => landed.places other phase own) landed.agenda planned held

theorem look (landed : Landed token base first claims bytes limit state)
    (decodes : Claims.ofBytes? bytes = some claims) :
    (state.toWorld.look token).1 = some claims ∧
      Landed token base first claims bytes limit
        { state with toWorld := (state.toWorld.look token).2 } := by
  have live := Store.live_of_entry landed.kept landed.early
  constructor
  · simp [World.look, Store.get_fst, live, decodes]
  · refine ⟨landed.sent, ?_, landed.early, landed.places, landed.agenda⟩
    have alive : (⟨bytes, limit⟩ : StoreEntry).isLive state.now = true := by
      simpa [StoreEntry.isLive] using landed.early
    have kept : (state.store.get state.now (storeKey token)).2.entryAt? (storeKey token) =
        some ⟨bytes, limit⟩ := by
      rw [Store.entryAt_get_self, landed.kept, Option.filter_some, if_pos alive]
    exact kept

theorem enter (landed : Landed token base first claims bytes limit state)
    (decodes : Claims.ofBytes? bytes = some claims) (planned : Planned (some id) state)
    (mine : call.token = token) (generation : Nat) :
    Landed token base first claims bytes limit (state.enter setting id call generation) := by
  subst mine
  obtain ⟨found, read⟩ := landed.look decodes
  have plannedStill : Planned (some id)
      { state with toWorld := (state.toWorld.look call.token).2 } :=
    planned.transfer rfl rfl (fun _ => Iff.rfl) planned.plain
  unfold State.enter
  simp only [found]
  exact read.finish plannedStill (some generation)

theorem lineUp (landed : Landed token base first claims bytes limit state)
    (planned : Planned (some id) state) :
    Landed token base first claims bytes limit (state.lineUp id token).2.2 := by
  have standings : (state.lineUp id token).2.2.standings =
      state.standings.set id (.waiting (state.table.lane token).openLock.1) := by
    rw [lineUp_toWorld]
    rfl
  refine ⟨landed.sent, landed.kept, landed.early, ?_, ?_⟩
  · intro other phase own stood
    rw [standings] at stood
    by_cases same : id = other
    · subst same
      obtain ⟨bound, placed⟩ := List.getElem?_eq_some_iff.mp stood
      exact .inr (.inl ⟨_, by simpa [eq_comm] using placed⟩)
    · rw [List.getElem?_set_ne same] at stood
      exact landed.places other phase own stood
  · intro entry member
    exact (landed.agenda entry member).imp_right fun starts =>
      starts.set (planned.item_ne member) rfl standings

theorem begin (landed : Landed token base first claims bytes limit state) (keeps : 0 < setting.ttl)
    (decodes : Claims.ofBytes? bytes = some claims) (planned : Planned (some id) state)
    (disciplined : state.toWorld.Disciplined) (called : state.calls[id]? = some call)
    (stood : state.standings[id]? = some .starting) (mine : call.token = token) :
    Landed token base first claims bytes limit (state.begin setting id call) := by
  have notNothing : ¬setting.ttl ≤ 0 := by omega
  subst mine
  have inLine := landed.lineUp planned
  have plannedStill := planned.lineUp disciplined called stood
  unfold State.begin
  rw [if_neg notNothing]
  dsimp only
  split
  · exact inLine.enter decodes plannedStill rfl _
  · exact inLine

/-- Whoever goes on while the answer is alive finds it. -/
theorem resume (landed : Landed token base first claims bytes limit state) (keeps : 0 < setting.ttl)
    (decodes : Claims.ofBytes? bytes = some claims) (planned : Planned (some id) state)
    (disciplined : state.toWorld.Disciplined) (ready : state.Ready id)
    (own : base.calls.length ≤ id)
    (mine : ∀ call, state.calls[id]? = some call → call.token = token) :
    Landed token base first claims bytes limit (state.resume setting id) := by
  obtain ⟨call, phase, called, stood, able⟩ := ready
  unfold State.resume
  rcases landed.places id phase own stood with rfl | ⟨generation, rfl⟩ | ⟨finish, rfl⟩
  · simp only [called, stood]
    exact landed.begin keeps decodes planned disciplined called stood (mine call called)
  · simp only [called, stood]
    exact landed.enter decodes planned (mine call called) generation
  · exact able.elim

/-- When the entry expires, every call that started before is done. -/
theorem expire {event : Timed CallId} {rest : List (Timed CallId)}
    (landed : Landed token base first claims bytes limit state) (scheduled : state.Scheduled)
    (due : state.agenda = event :: rest) (late : limit ≤ event.time) :
    Expired base first claims limit (state.turnTo event rest) := by
  obtain ⟨disciplined, planned⟩ := scheduled
  obtain ⟨least, _⟩ := List.pairwise_cons.mp (due ▸ planned.inOrder)
  -- Whoever can still go on is about to start, and not before the entry has expired.
  have starting : ∀ id phase, state.Ready id → state.standings[id]? = some phase →
      phase = .starting ∧ ∀ call, state.calls[id]? = some call → limit ≤ call.start := by
    intro id phase ready stood
    obtain ⟨entry, member, rfl⟩ := List.mem_map.mp ((planned.named id).mpr ⟨ready, by simp⟩)
    have notBefore : limit ≤ entry.time := by
      rcases List.mem_cons.mp (due ▸ member) with rfl | later
      · exact late
      · exact late.trans (least entry later)
    obtain ⟨call, called, start, time⟩ := (landed.agenda entry member).resolve_left (by omega)
    refine ⟨Option.some.inj (stood.symm.trans start), ?_⟩
    intro other here
    obtain rfl := Option.some.inj (called.symm.trans here)
    omega
  refine ⟨⟨[], landed.sent, by simp⟩, late, ?_⟩
  intro id call own called started
  have calledBefore : state.calls[id]? = some call := called
  have bound : id < state.standings.length := by
    rw [← disciplined.aligned]
    exact (List.getElem?_eq_some_iff.mp calledBefore).1
  have stood := List.getElem?_eq_getElem bound
  rcases landed.places id _ own stood with start | ⟨generation, waits⟩ | ⟨finish, finished⟩
  · rw [start] at stood
    have ready := (World.ready_iff calledBefore stood).mpr trivial
    have after := (starting id _ ready stood).2 call calledBefore
    omega
  · rw [waits] at stood
    obtain ⟨holder, phase, stoodHolder, notStarting, ready⟩ :=
      World.exists_ready_of_waiting disciplined planned.plain calledBefore stood
    exact absurd (starting holder phase ready stoodHolder).1 notStarting
  · exact ⟨finish, finished ▸ stood⟩

end Landed

theorem Expired.resume (expired : Expired base first claims limit state) (setting : Setting)
    (disciplined : state.toWorld.Disciplined) (ready : state.Ready id) :
    Expired base first claims limit (state.resume setting id) := by
  obtain ⟨rest, sent, lateRest⟩ := expired.sent
  have ⟨call, _, called, _, _⟩ := ready
  have confined := (resume_pursued setting disciplined ready).confined called
  obtain ⟨more, sentMore, own⟩ := confined.sent
  refine ⟨⟨rest ++ more, ?_, ?_⟩, ?_, ?_⟩
  · rw [sentMore, sent]
    simp
  · intro other member
    rcases List.mem_append.mp member with early | later
    · exact lateRest other early
    · rw [(own other later).2]
      exact expired.late
  · rw [confined.now]
    exact expired.late
  · intro other calling ownCall calledOther started
    rw [confined.calls] at calledOther
    obtain ⟨finish, finished⟩ := expired.served other calling ownCall calledOther started
    have apart : other ≠ id := by
      rintro rfl
      exact World.not_ready_of_done finished ready
    exact ⟨finish, (confined.others other apart).trans finished⟩

/-- A good reply is taken: it is stored, and if it is kept at all, it is there for the others. -/
theorem Landing.receive (landing : Landing base first id state) (planned : Planned (some id) state)
    (accepted : setting.introspector.Accepts reply claims bytes) (call : Call) (held : Nat) :
    let write := state.toWorld.writeOf setting call claims bytes
    (state.receive setting id call (some held) reply).writes = [write] ∧
      (0 < write.ttl → Landed call.token base first claims bytes write.expiresAt
        (state.receive setting id call (some held) reply)) := by
  intro write
  let kept : State := { state with
    toWorld := state.toWorld.keep write
    writes := state.writes ++ [write] }
  have received : state.receive setting id call (some held) reply =
      kept.finish id call.token (some held) (.ok claims) := by
    unfold State.receive
    rw [Introspector.judge_eq_ok_iff.mpr accepted]
  rw [received]
  constructor
  · rw [finish_writes]
    simp [kept, landing.writes]
  · intro positive
    have plannedStill : Planned (some id) kept :=
      planned.transfer rfl rfl (fun _ => Iff.rfl) planned.plain
    have stored : kept.store.entryAt? (storeKey call.token) = some ⟨bytes, write.expiresAt⟩ :=
      (Store.entryAt_set bytes write.ttl).trans (if_pos ⟨rfl, positive⟩)
    have early : kept.now < write.expiresAt := by
      have present : write.time = kept.now := rfl
      unfold Write.expiresAt
      omega
    have sent : kept.sent = base.sent ++ [first] := landing.sent
    refine Landed.of_finish sent stored early ?_ ?_ plannedStill (some held)
    · intro other phase own apart stood
      exact (landing.places other phase own apart stood).imp_right .inl
    · intro entry member
      exact .inr (landing.agenda entry member)

namespace Airborne

/-- While the request is in the air, whoever starts gets in line. -/
theorem begin {opener : CallId}
    (airborne : Airborne token base first reply due opener generation state)
    (keeps : 0 < setting.ttl) (planned : Planned (some id) state)
    (disciplined : state.toWorld.Disciplined) (stood : state.standings[id]? = some .starting)
    (mine : call.token = token)
    (calledOpener : ∀ call, state.calls[opener]? = some call → call.token = token) :
    Airborne token base first reply due opener generation (state.begin setting id call) := by
  subst mine
  have notNothing : ¬setting.ttl ≤ 0 := by omega
  have apart : id ≠ opener := by
    rintro rfl
    have clash := stood.symm.trans airborne.stood
    cases clash
  have bound : opener < state.calls.length := by
    rw [disciplined.aligned]
    exact (List.getElem?_eq_some_iff.mp airborne.stood).1
  have openerCalled := List.getElem?_eq_getElem bound
  have openerMine := calledOpener _ openerCalled
  have holds : ((state.table.lane call.token).lock generation).holder = some opener := by
    have stands := World.standing_eq openerCalled airborne.stood
    rw [openerMine] at stands
    exact ((disciplined.tended call.token).queued generation).held_holds opener _ stands rfl
  have opened := Lane.openLock_of_current airborne.current
  have notTaken : (state.lineUp id call.token).1 ≠ true := by
    rw [lineUp_taken, opened, Lane.acquire_fst, holds]
    simp
  have lined : state.begin setting id call = (state.lineUp id call.token).2.2 := by
    unfold State.begin
    rw [if_neg notNothing]
    exact if_neg notTaken
  have standings : (state.lineUp id call.token).2.2.standings =
      state.standings.set id (.waiting generation) := by
    rw [lineUp_toWorld, opened]
    rfl
  rw [lined]
  refine ⟨airborne.own, ?_, airborne.sent, airborne.writes, ?_, ?_, ?_⟩
  · rw [standings, List.getElem?_set_ne apart, airborne.stood]
  · rw [lineUp_lane, Lane.acquire_current, opened, airborne.current]
  · intro other phase own different place
    rw [standings] at place
    by_cases same : id = other
    · subst same
      obtain ⟨inside, placed⟩ := List.getElem?_eq_some_iff.mp place
      exact .inr (by simpa [eq_comm] using placed)
    · rw [List.getElem?_set_ne same] at place
      exact airborne.places other phase own different place
  · intro entry member
    exact (airborne.agenda entry member).imp_right fun starts =>
      starts.set (planned.item_ne member) rfl standings

end Airborne

def afterAsking (state : State) (id : CallId) (call : Call) (request : Request) : State :=
  let inLine := (state.lineUp id call.token).2.2
  let read : State := { inLine with toWorld := (inLine.toWorld.look call.token).2 }
  { read with toWorld := read.toWorld.send ⟨call.token, request, state.now⟩ }

theorem afterAsking_standings {request : Request} :
    (state.afterAsking id call request).standings =
      state.standings.set id (.waiting (state.lineUp id call.token).2.1) := by
  have lined : (state.lineUp id call.token).2.2.standings =
      state.standings.set id (.waiting (state.lineUp id call.token).2.1) := by
    rw [lineUp_toWorld, lineUp_generation]
    rfl
  exact lined

theorem afterAsking_sent {request : Request} :
    (state.afterAsking id call request).sent =
      state.sent ++ [⟨call.token, request, state.now⟩] := rfl

namespace Before

variable {phase : Phase}

theorem current_none (before : Before base state) (course : Course launched base state)
    (disciplined : state.toWorld.Disciplined) (token : String) :
    (state.table.lane token).current = none := by
  cases present : (state.table.lane token).current with
  | none => rfl
  | some generation =>
      obtain ⟨id, phase, stands, pledged⟩ :=
        (disciplined.tended token).listed.pledged generation present
      obtain ⟨_, _, _, stood⟩ := World.exists_call_of_standing stands
      by_cases own : base.calls.length ≤ id
      · rw [before.places id phase own stood] at pledged
        cases pledged
      · obtain ⟨result, finish, rfl⟩ := course.past id phase (by omega) stood
        cases pledged

/-- The first call takes the lock, finds nothing and asks. -/
theorem begin_eq (before : Before base state) (course : Course launched base state)
    (disciplined : state.toWorld.Disciplined) (keeps : 0 < setting.ttl)
    (absent : base.store.live? base.now (storeKey call.token) = none) {request : Request}
    (made : setting.introspector.request call.context call.token = .ok request) :
    let generation := (state.lineUp id call.token).2.1
    let asked := state.afterAsking id call request
    let reply := setting.server base.sent ⟨call.token, request, state.now⟩
    state.begin setting id call =
      if setting.introspector.duration reply = 0 then
        asked.receive setting id call (some generation) reply
      else (asked.setPhase id (.calling (some generation) reply)).schedule
        (asked.now + setting.introspector.duration reply) id := by
  intro generation asked reply
  have notNothing : ¬setting.ttl ≤ 0 := by omega
  have absentLock := before.current_none course disciplined call.token
  have taken : (state.lineUp id call.token).1 = true := by
    have free : (state.table.lane call.token).lock (state.table.lane call.token).locks.length =
        {} := by
      simp [Lane.lock]
    have opened : (state.table.lane call.token).openLock.1 =
        (state.table.lane call.token).locks.length := by
      rw [Lane.openLock_of_none absentLock]
    rw [lineUp_taken, Lane.acquire_fst, Lane.openLock_lock, opened, free]
    rfl
  have nothing : ((state.lineUp id call.token).2.2.toWorld.look call.token).1 = none := by
    have dead : (state.lineUp id call.token).2.2.store.live? (state.lineUp id call.token).2.2.now
        (storeKey call.token) = none := by
      have sameStore : (state.lineUp id call.token).2.2.store = base.store := before.store
      rw [sameStore]
      exact Store.live_none_later absent before.since
    simp [World.look, Store.get_fst, dead]
  have sameReply : setting.server state.sent ⟨call.token, request, state.now⟩ = reply := by
    rw [before.sent]
  rw [← sameReply]
  unfold State.begin State.enter State.ask
  rw [if_neg notNothing]
  simp only [taken, nothing, made, if_true]
  rfl

theorem asked_places (before : Before base state) (request : Request) {other : CallId}
    (own : base.calls.length ≤ other) (apart : other ≠ id)
    (place : (state.afterAsking id call request).standings[other]? = some phase) :
    phase = .starting := by
  rw [afterAsking_standings, List.getElem?_set_ne (Ne.symm apart)] at place
  exact before.places other phase own place

theorem asked_agenda (before : Before base state) (planned : Planned (some id) state)
    (call : Call) (request : Request) :
    ∀ entry ∈ state.agenda, (state.afterAsking id call request).StartsAt entry := by
  intro entry member
  exact (before.agenda entry member).set (planned.item_ne member) rfl afterAsking_standings

theorem landing (before : Before base state) (planned : Planned (some id) state) (call : Call)
    (request : Request) :
    Landing base ⟨call.token, request, state.now⟩ id (state.afterAsking id call request) := by
  refine ⟨?_, before.writes, ?_, before.asked_agenda planned call request⟩
  · rw [afterAsking_sent, before.sent]
  · intro other phase own apart place
    exact .inl (before.asked_places request own apart place)

theorem airborne (before : Before base state) (planned : Planned (some id) state) (call : Call)
    (request : Request) (reply : Reply) (due : Nat) (own : base.calls.length ≤ id)
    (inside : id < state.standings.length) :
    let generation := (state.lineUp id call.token).2.1
    let asked := state.afterAsking id call request
    Airborne call.token base ⟨call.token, request, state.now⟩ reply due id generation
      ((asked.setPhase id (.calling (some generation) reply)).schedule due id) := by
  intro generation asked
  have landing := before.landing planned call request
  refine ⟨own, ?_, landing.sent, before.writes, ?_, ?_, ?_⟩
  · refine World.stood_setPhase ?_ _
    rw [afterAsking_standings, List.length_set]
    exact inside
  · have lane : asked.table.lane call.token =
        ((state.table.lane call.token).openLock.2.acquire generation id).2 :=
      lineUp_lane state id call.token
    exact (congrArg Lane.current lane).trans
      ((Lane.acquire_current id).trans Lane.openLock_current)
  · intro other phase ownOther apart place
    have unmoved : asked.standings[other]? = some phase :=
      (List.getElem?_set_ne (Ne.symm apart)).symm.trans place
    exact .inl (before.asked_places request ownOther apart unmoved)
  · intro entry member
    apply (Timed.mem_enter.mp member).imp_right
    intro old
    exact (landing.agenda entry old).set (planned.item_ne old) rfl rfl

/-- After the first request the reply is in the air or, if it took no time, already stored. -/
theorem begin (before : Before base state) (course : Course launched base state)
    (planned : Planned (some id) state) (disciplined : state.toWorld.Disciplined)
    (keeps : 0 < setting.ttl) (called : state.calls[id]? = some call)
    (stood : state.standings[id]? = some .starting) (own : base.calls.length ≤ id)
    (absent : base.store.live? base.now (storeKey call.token) = none) {request : Request}
    (made : setting.introspector.request call.context call.token = .ok request) :
    let first : Sent := ⟨call.token, request, state.now⟩
    let reply := setting.server base.sent first
    (state.begin setting id call).sent = base.sent ++ [first] ∧
      ((∃ generation, Airborne call.token base first reply
          (first.time + setting.introspector.duration reply) id generation
          (state.begin setting id call)) ∨
        ∀ claims bytes, setting.introspector.Accepts reply claims bytes →
          ∃ write, (state.begin setting id call).writes = [write] ∧
            Delivered setting call.token first reply claims bytes call write ∧
            (0 < write.ttl → Landed call.token base first claims bytes write.expiresAt
              (state.begin setting id call))) := by
  intro first reply
  let asked := state.afterAsking id call request
  have landing := before.landing planned call request
  have inside := (List.getElem?_eq_some_iff.mp stood).1
  rw [before.begin_eq course disciplined keeps absent made]
  split
  · rename_i instantly
    refine ⟨by rw [State.receive_sent, landing.sent], .inr ?_⟩
    intro claims bytes accepted
    have plannedAsked : Planned (some id) asked :=
      (planned.lineUp disciplined called stood).transfer rfl rfl (fun _ => Iff.rfl)
        (planned.lineUp disciplined called stood).plain
    obtain ⟨writes, landed⟩ := landing.receive plannedAsked accepted call
      (state.lineUp id call.token).2.1
    refine ⟨_, writes, ⟨rfl, rfl, rfl, ?_⟩, landed⟩
    have noDelay : setting.introspector.duration reply = 0 := instantly
    rw [noDelay, Nat.add_zero]
    rfl
  · exact ⟨landing.sent, .inl ⟨_, before.airborne planned call request reply _ own inside⟩⟩

end Before

/-! Each stage outlasts the arrival of a call, its entry into the agenda and the passing of time. -/

section

variable {event entry : Timed CallId} {rest : List (Timed CallId)} {opener : CallId} {time : Nat}
  {phase : Phase}

theorem enroll_place (place : (state.enroll call).standings[id]? = some phase) :
    state.standings[id]? = some phase ∨ phase = .starting := by
  by_cases old : id < state.standings.length
  · exact .inl ((List.getElem?_append_left old).symm.trans place)
  · have last := (List.getElem?_append_right (Nat.le_of_not_lt old)).symm.trans place
    have member := List.mem_of_getElem? last
    exact .inr (by simpa using member)

theorem enroll_stands {old : Phase} (stood : state.standings[id]? = some old) :
    (state.enroll call).standings[id]? = some old := by
  obtain ⟨bound, _⟩ := List.getElem?_eq_some_iff.mp stood
  exact (List.getElem?_append_left bound).trans stood

theorem StartsAt.enroll (starts : state.StartsAt entry) (arrived : Call) :
    (state.enroll arrived).StartsAt entry := by
  obtain ⟨call, called, stood, time⟩ := starts
  obtain ⟨bound, _⟩ := List.getElem?_eq_some_iff.mp called
  exact ⟨call, (List.getElem?_append_left bound).trans called, enroll_stands stood, time⟩

theorem Before.enroll (before : Before base state) (call : Call) :
    Before base (state.enroll call) where
  sent := before.sent
  writes := before.writes
  store := before.store
  since := before.since
  places id phase own place :=
    (enroll_place place).elim (before.places id phase own) (fun new => new)
  agenda entry member := (before.agenda entry member).enroll call

theorem Before.schedule (before : Before base state) (starts : state.StartsAt ⟨time, id⟩) :
    Before base (state.schedule time id) where
  sent := before.sent
  writes := before.writes
  store := before.store
  since := before.since
  places := before.places
  agenda entry member := by
    rcases Timed.mem_enter.mp member with rfl | old
    · exact starts
    · exact before.agenda entry old

theorem Before.turnTo (before : Before base state) (due : state.agenda = event :: rest)
    (later : state.now ≤ event.time) : Before base (state.turnTo event rest) where
  sent := before.sent
  writes := before.writes
  store := before.store
  since := before.since.trans later
  places := before.places
  agenda entry member := before.agenda entry (due ▸ List.mem_cons_of_mem event member)

theorem Airborne.enroll (airborne : Airborne token base first reply due opener generation state)
    (call : Call) : Airborne token base first reply due opener generation (state.enroll call) where
  own := airborne.own
  stood := enroll_stands airborne.stood
  sent := airborne.sent
  writes := airborne.writes
  current := airborne.current
  places id phase own apart place :=
    (enroll_place place).elim (airborne.places id phase own apart) .inl
  agenda entry member := (airborne.agenda entry member).imp_right fun starts => starts.enroll call

theorem Airborne.schedule (airborne : Airborne token base first reply due opener generation state)
    (starts : state.StartsAt ⟨time, id⟩) :
    Airborne token base first reply due opener generation (state.schedule time id) where
  own := airborne.own
  stood := airborne.stood
  sent := airborne.sent
  writes := airborne.writes
  current := airborne.current
  places := airborne.places
  agenda entry member := by
    rcases Timed.mem_enter.mp member with rfl | old
    · exact .inr starts
    · exact airborne.agenda entry old

theorem Airborne.turnTo {last : Nat}
    (airborne : Airborne token base first reply last opener generation state)
    (due : state.agenda = event :: rest) :
    Airborne token base first reply last opener generation (state.turnTo event rest) where
  own := airborne.own
  stood := airborne.stood
  sent := airborne.sent
  writes := airborne.writes
  current := airborne.current
  places := airborne.places
  agenda entry member := airborne.agenda entry (due ▸ List.mem_cons_of_mem event member)

theorem Airborne.landing {last : Nat}
    (airborne : Airborne token base first reply last opener generation state)
    (planned : Planned (some opener) state) : Landing base first opener state where
  sent := airborne.sent
  writes := airborne.writes
  places id phase own apart place :=
    (airborne.places id phase own apart place).imp_right fun waits => ⟨generation, waits⟩
  agenda entry member := by
    apply (airborne.agenda entry member).resolve_left
    rintro rfl
    exact planned.item_ne member rfl

theorem Landed.enroll (landed : Landed token base first claims bytes limit state) (call : Call) :
    Landed token base first claims bytes limit (state.enroll call) where
  sent := landed.sent
  kept := landed.kept
  early := landed.early
  places id phase own place := (enroll_place place).elim (landed.places id phase own) .inl
  agenda entry member := (landed.agenda entry member).imp_right fun starts => starts.enroll call

theorem Landed.schedule (landed : Landed token base first claims bytes limit state)
    (starts : state.StartsAt ⟨time, id⟩) :
    Landed token base first claims bytes limit (state.schedule time id) where
  sent := landed.sent
  kept := landed.kept
  early := landed.early
  places := landed.places
  agenda entry member := by
    rcases Timed.mem_enter.mp member with rfl | old
    · exact .inr starts
    · exact landed.agenda entry old

theorem Landed.turnTo (landed : Landed token base first claims bytes limit state)
    (due : state.agenda = event :: rest) (early : event.time < limit) :
    Landed token base first claims bytes limit (state.turnTo event rest) where
  sent := landed.sent
  kept := landed.kept
  early := early
  places := landed.places
  agenda entry member := landed.agenda entry (due ▸ List.mem_cons_of_mem event member)

theorem Expired.turnTo (expired : Expired base first claims limit state)
    (later : state.now ≤ event.time) :
    Expired base first claims limit (state.turnTo event rest) where
  sent := expired.sent
  late := expired.late.trans later
  served := expired.served

end

end State

end Gateway.Introspection
