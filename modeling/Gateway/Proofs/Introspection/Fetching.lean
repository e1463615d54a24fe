import Gateway.Proofs.Introspection.Flight
import Gateway.Proofs.Introspection.Traces

/-!
A call that finds nothing to read in the store, with no other call in progress. What it returns, when
it does so, what it sends and what it stores is said by `fetch`, in which the store does not occur.
-/

namespace Gateway.Introspection

/-- What a call comes to that asks the server. -/
structure Fetched where
  result : Except GatewayError Claims
  finish : Nat
  sent : List Sent
  writes : List Write

def answered (setting : Setting) (call : Call) (reply : Reply) (finish : Nat) : Fetched :=
  match setting.introspector.judge reply with
  | .error error => ⟨.error error, finish, [], []⟩
  | .ok (claims, bytes) =>
      ⟨.ok claims, finish, [], if setting.ttl ≤ 0 then [] else
        [⟨storeKey call.token, bytes,
          cacheTtl setting.ttl claims call.expiry call.notBefore (setting.wall finish), finish⟩]⟩

variable {setting : Setting} {call : Call}

@[simp]
theorem answered_finish (setting : Setting) (call : Call) (reply : Reply) (finish : Nat) :
    (answered setting call reply finish).finish = finish := by
  unfold answered
  split <;> rfl

@[simp]
theorem answered_sent (setting : Setting) (call : Call) (reply : Reply) (finish : Nat) :
    (answered setting call reply finish).sent = [] := by
  unfold answered
  split <;> rfl

theorem mem_writes_answered {reply : Reply} {finish : Nat} {write : Write}
    (stored : write ∈ (answered setting call reply finish).writes) :
    (answered setting call reply finish).writes = [write] ∧ write.key = storeKey call.token ∧
      write.time = finish ∧ ∃ claims, (answered setting call reply finish).result = .ok claims ∧
        Claims.ofBytes? write.value = some claims := by
  unfold answered at stored ⊢
  cases judged : setting.introspector.judge reply with
  | error error =>
      rw [judged] at stored
      exact nomatch stored
  | ok answer =>
      obtain ⟨claims, bytes⟩ := answer
      rw [judged] at stored
      dsimp only at stored ⊢
      split at stored
      · exact nomatch stored
      · rename_i keeps
        obtain rfl := List.mem_singleton.mp stored
        exact ⟨if_neg keeps, rfl, rfl, claims, rfl, (Introspector.judge_eq_ok_iff.mp judged).decodes⟩

def fetch (setting : Setting) (past : List Sent) (call : Call) (start : Nat) : Fetched :=
  match setting.introspector.request call.context call.token with
  | .error error => ⟨.error error, start, [], []⟩
  | .ok request =>
      let sent : Sent := ⟨call.token, request, start⟩
      let reply := setting.server past sent
      { answered setting call reply (start + setting.introspector.duration reply) with
        sent := [sent] }

theorem mem_writes_fetch {past : List Sent} {start : Nat} {write : Write}
    (stored : write ∈ (fetch setting past call start).writes) :
    (fetch setting past call start).writes = [write] ∧ write.key = storeKey call.token ∧
      write.time = (fetch setting past call start).finish ∧
      ∃ claims, (fetch setting past call start).result = .ok claims ∧
        Claims.ofBytes? write.value = some claims := by
  unfold fetch at stored ⊢
  cases made : setting.introspector.request call.context call.token with
  | error error =>
      rw [made] at stored
      exact nomatch stored
  | ok request =>
      rw [made] at stored
      dsimp only at stored ⊢
      rw [answered_finish]
      exact mem_writes_answered stored

theorem start_le_finish (past : List Sent) (start : Nat) :
    start ≤ (fetch setting past call start).finish := by
  unfold fetch
  split
  · exact Nat.le_refl start
  · simp

theorem replay_of_ne {writes : List Write} {key : String}
    (apart : ∀ write ∈ writes, write.key ≠ key) (store : Store) :
    (replay store writes).entryAt? key = store.entryAt? key := by
  induction writes generalizing store with
  | nil => rfl
  | cons write rest induction =>
      obtain ⟨first, later⟩ := List.forall_mem_cons.mp apart
      refine (induction later _).trans ?_
      rw [Store.entryAt_set, if_neg fun hit => first hit.1]

theorem Bare.replay {writes : List Write} {store : Store} {now : Nat} {token : String}
    (bare : Bare store now token) (harmless : ∀ write ∈ writes, write.ttl ≤ 0) :
    Bare (replay store writes) now token := by
  induction writes generalizing store with
  | nil => exact bare
  | cons write rest induction =>
      obtain ⟨first, later⟩ := List.forall_mem_cons.mp harmless
      exact induction (bare.set (fun _ => first) ..) later

def World.withStore (world : World) (store : Store) : World := { world with store }

namespace State

def withStore (state : State) (store : Store) : State :=
  { state with toWorld := state.toWorld.withStore store }

structure Ended (id : CallId) (fetched : Fetched) (state after : State) : Prop where
  agenda : after.agenda = state.agenda
  earlier : after.earlier = state.earlier
  standings : after.standings = state.standings.set id (.done fetched.result fetched.finish)
  now : after.now = fetched.finish
  sent : after.sent = state.sent ++ fetched.sent
  writes : after.writes = state.writes ++ fetched.writes
  store : after.store = replay state.store fetched.writes

variable {state : State} {id : CallId} {token : String} {held : Option Nat}

/-- Nobody waits for the lock that is held, if one is. -/
def Unawaited (state : State) (token : String) (held : Option Nat) : Prop :=
  ∀ generation, held = some generation →
    ((state.table.lane token).lock generation).waiting = []

theorem finish_ended (alone : state.Unawaited token held) (id : CallId)
    (result : Except GatewayError Claims) :
    Ended id ⟨result, state.now, [], []⟩ state (state.finish id token held result) := by
  cases held with
  | none => exact ⟨rfl, rfl, rfl, rfl, by simp, by simp, rfl⟩
  | some generation =>
      have nobody := alone generation rfl
      refine ⟨?_, ?_, ?_, ?_, by simp, by simp, ?_⟩ <;>
        simp only [finish_some, nobody, List.head?_nil, Option.elim_none]
      all_goals rfl

theorem receive_ended (alone : state.Unawaited call.token held)
    (kept : held = none ↔ setting.ttl ≤ 0) (id : CallId) (reply : Reply) :
    Ended id (answered setting call reply state.now) state
      (state.receive setting id call held reply) := by
  unfold receive answered
  cases setting.introspector.judge reply with
  | error error => exact finish_ended alone id _
  | ok answer =>
      obtain ⟨claims, bytes⟩ := answer
      cases held with
      | none =>
          simp only [if_pos (kept.mp rfl)]
          exact finish_ended alone id _
      | some generation =>
          have keeps : ¬setting.ttl ≤ 0 := fun nothing => nomatch kept.mpr nothing
          simp only [if_neg keeps]
          let write := state.toWorld.writeOf setting call claims bytes
          let stored : State := { state with
            toWorld := state.toWorld.keep write
            writes := state.writes ++ [write] }
          have still : stored.Unawaited call.token (some generation) := alone
          obtain ⟨agenda, earlier, standings, now, sent, writes, store⟩ :=
            finish_ended still id (.ok claims)
          exact ⟨agenda, earlier, standings, now, sent, writes.trans (List.append_nil _), store⟩

theorem step_schedule (settled : state.agenda = []) (setting : Setting) (time : Nat) (id : CallId) :
    (state.schedule time id).step setting = (state.turnTo ⟨time, id⟩ []).resume setting id := by
  have due : (state.schedule time id).agenda = [⟨time, id⟩] := by
    rw [schedule, settled]
    rfl
  unfold step
  rw [due]
  rfl

theorem resume_calling {reply : Reply} (called : state.calls[id]? = some call)
    (stood : state.standings[id]? = some (.calling held reply)) :
    state.resume setting id = state.receive setting id call held reply := by
  simp only [resume, called, stood]

theorem Ended.of_asked {fetched : Fetched} {after : State} {sent : Sent}
    (ended : Ended id fetched { state with toWorld := state.toWorld.send sent } after)
    (nothing : fetched.sent = []) : Ended id { fetched with sent := [sent] } state after := by
  obtain ⟨agenda, earlier, standings, now, sentAfter, writes, store⟩ := ended
  rw [nothing, List.append_nil] at sentAfter
  exact ⟨agenda, earlier, standings, now, sentAfter, writes, store⟩

theorem Ended.of_calling {fetched : Fetched} {after : State} {phase : Phase} {time : Nat}
    (settled : state.agenda = [])
    (ended : Ended id fetched ((state.setPhase id phase).turnTo ⟨time, id⟩ []) after) :
    Ended id fetched state after := by
  obtain ⟨agenda, earlier, standings, now, sent, writes, store⟩ := ended
  refine ⟨agenda.trans settled.symm, earlier, standings.trans ?_, now, sent, writes, store⟩
  exact List.set_set ..

/-- A call that is alone asks, waits for the reply and ends. -/
theorem ask_ended (setting : Setting) (alone : state.Unawaited call.token held)
    (kept : held = none ↔ setting.ttl ≤ 0) (settled : state.agenda = [])
    (called : state.calls[id]? = some call) (inside : id < state.standings.length) :
    ∃ count, Ended id (fetch setting state.sent call state.now) state
      ((state.ask setting id call held).run setting count) := by
  unfold ask fetch
  cases made : setting.introspector.request call.context call.token with
  | error error => exact ⟨0, finish_ended alone id _⟩
  | ok request =>
      dsimp only
      let sent : Sent := state.toWorld.sending call.token request
      let reply := setting.server state.sent sent
      let duration := setting.introspector.duration reply
      let asked : State := { state with toWorld := state.toWorld.send sent }
      by_cases atOnce : duration = 0
      · have ended : Ended id (answered setting call reply asked.now) asked
            (asked.receive setting id call held reply) := by
          have still : asked.Unawaited call.token held := alone
          exact receive_ended still kept id reply
        refine ⟨0, ?_⟩
        rw [if_pos atOnce]
        have now : asked.now = state.now + duration := by rw [atOnce]; rfl
        rw [now] at ended
        exact ended.of_asked (answered_sent ..)
      · let calling := asked.setPhase id (.calling held reply)
        let replied := calling.turnTo ⟨asked.now + duration, id⟩ []
        have ended : Ended id (answered setting call reply (asked.now + duration)) replied
            (replied.receive setting id call held reply) := by
          have still : replied.Unawaited call.token held := alone
          exact receive_ended still kept id reply
        have stood : replied.standings[id]? = some (.calling held reply) :=
          World.stood_setPhase inside _
        have calledStill : replied.calls[id]? = some call := called
        have received : (calling.schedule (asked.now + duration) id).step setting =
            replied.receive setting id call held reply := by
          have nothingElse : calling.agenda = [] := settled
          exact (step_schedule nothingElse ..).trans (resume_calling calledStill stood)
        rw [← received] at ended
        refine ⟨1, ?_⟩
        rw [if_neg atOnce, run, run]
        have returned : Ended id (answered setting call reply (asked.now + duration)) asked
            ((calling.schedule (asked.now + duration) id).step setting) := ended.of_calling settled
        exact returned.of_asked (answered_sent ..)

/-- The store after a call has read the entry of its token, which it does if anything is kept. -/
def storeRead (setting : Setting) (state : State) (token : String) : Store :=
  if setting.ttl ≤ 0 then state.store else (state.store.get state.now (storeKey token)).2

theorem lineUp_free (free : ∀ generation, (state.table.lane token).lock generation = {})
    (id : CallId) :
    (state.lineUp id token).1 = true ∧
      (state.lineUp id token).2.2.Unawaited token (some (state.lineUp id token).2.1) := by
  have opened (generation : Nat) : (state.table.lane token).openLock.2.lock generation = {} :=
    (Lane.openLock_lock generation).trans (free generation)
  constructor
  · rw [lineUp_taken, Lane.acquire_fst, opened]
    rfl
  · intro generation here
    rw [lineUp_lane, ← Option.some.inj here]
    exact Lane.acquire_waiting_of_free id (opened _)

theorem enter_of_missing (missing : (state.toWorld.look call.token).1 = none) (id : CallId)
    (generation : Nat) :
    state.enter setting id call generation =
      State.ask setting { state with toWorld := (state.toWorld.look call.token).2 } id call
        (some generation) := by
  unfold enter
  simp only [missing]

theorem begin_ended (setting : Setting)
    (free : ∀ generation, (state.table.lane call.token).lock generation = {})
    (bare : Bare state.store state.now call.token) (settled : state.agenda = [])
    (called : state.calls[id]? = some call) (inside : id < state.standings.length) :
    ∃ count, Ended id (fetch setting state.sent call state.now)
      (state.withStore (storeRead setting state call.token))
      ((state.begin setting id call).run setting count) := by
  unfold begin storeRead
  by_cases nothingKept : setting.ttl ≤ 0
  · simp only [if_pos nothingKept]
    have alone : state.Unawaited call.token none := fun _ absurd => nomatch absurd
    exact ask_ended setting alone (iff_of_true rfl nothingKept) settled called inside
  · simp only [if_neg nothingKept]
    obtain ⟨taken, alone⟩ := lineUp_free free id
    let inLine := (state.lineUp id call.token).2.2
    let read : State := { inLine with toWorld := (inLine.toWorld.look call.token).2 }
    have missing : (inLine.toWorld.look call.token).1 = none := bare_iff_look.mpr bare
    have insideStill : id < read.standings.length := by
      have same : read.standings.length = state.standings.length := List.length_set
      rwa [same]
    have still : read.Unawaited call.token (some (state.lineUp id call.token).2.1) := alone
    obtain ⟨count, agenda, earlier, standings, now, sent, writes, store⟩ :=
      ask_ended setting still (iff_of_false (by simp) nothingKept) settled called insideStill
    refine ⟨count, ?_⟩
    rw [if_pos taken, enter_of_missing missing]
    exact ⟨agenda, earlier, standings.trans (List.set_set ..), now, sent, writes, store⟩

theorem storeRead_bare (bare : Bare state.store state.now token) :
    Bare (storeRead setting state token) state.now token := by
  unfold storeRead
  split
  · exact bare
  · exact bare.alike (Store.Alike.get _ _ _)

theorem storeRead_of_ne {key : String} (apart : key ≠ storeKey token) :
    (storeRead setting state token).entryAt? key = state.store.entryAt? key := by
  unfold storeRead
  split
  · rfl
  · exact Store.entryAt_get_of_ne (Ne.symm apart)

def starting (state : State) (call : Call) : State :=
  (state.prepare.enroll call).turnTo ⟨max state.now call.start, state.calls.length⟩ []

theorem launchAll_single (quiet : state.toWorld.Quiet) (setting : Setting) (call : Call) :
    ∃ count, (state.launchAll setting [call]).run setting count =
      (state.starting call).begin setting state.calls.length call := by
  have launched : state.launchAll setting [call] =
      if call.start ≤ state.now then
        (state.prepare.enroll call).begin setting state.calls.length call
      else (state.prepare.enroll call).schedule call.start state.calls.length := rfl
  by_cases come : call.start ≤ state.now
  · refine ⟨0, ?_⟩
    rw [run, launched, if_pos come, starting, Nat.max_eq_left come]
    rfl
  · refine ⟨1, ?_⟩
    rw [run, run, launched, if_neg come, starting, Nat.max_eq_right (Nat.le_of_not_le come),
      step_schedule rfl]
    have called : (state.starting call).calls[state.calls.length]? = some call :=
      enroll_called state.prepare call
    have stood : (state.starting call).standings[state.calls.length]? = some .starting :=
      enroll_stood (Quiet.prepare quiet).1.disciplined call
    have begins := resume_starting setting called stood
    rwa [starting, Nat.max_eq_right (Nat.le_of_not_le come)] at begins

theorem lookUp_ended (setting : Setting) (quiet : state.toWorld.Quiet)
    (bare : Bare state.store state.now call.token) :
    let looking := state.starting call
    Ended state.calls.length (fetch setting state.sent call looking.now)
      (looking.withStore (storeRead setting looking call.token)) (state.lookUp setting [call]) := by
  intro looking
  have bareStill : Bare looking.store looking.now call.token := bare.wait (Nat.le_max_left ..)
  have free : ∀ generation, (looking.table.lane call.token).lock generation = {} :=
    (quiet.free call.token).2
  have called : looking.calls[state.calls.length]? = some call := enroll_called state.prepare call
  have inside : state.calls.length < looking.standings.length := by
    have length : looking.standings.length = state.standings.length + 1 := List.length_append
    rw [length, quiet.aligned]
    exact Nat.lt_succ_self _
  obtain ⟨before, begins⟩ := launchAll_single quiet setting call
  obtain ⟨count, ended⟩ := begin_ended setting free bareStill rfl called inside
  have reached : ((state.launchAll setting [call]).run setting (before + count)) =
      (looking.begin setting state.calls.length call).run setting count := by
    rw [← run_run, begins]
  have settled : ((state.launchAll setting [call]).run setting (before + count)).agenda = [] := by
    rw [reached]
    exact ended.agenda
  have same : state.lookUp setting [call] =
      (looking.begin setting state.calls.length call).run setting count :=
    (settled_unique (lookUp_quiet quiet setting [call]).1 settled).trans reached
  rwa [same]

/-- A round with one call that found nothing in the store. It asked the server; what it stored has
replaced what was under its key, and if it stored nothing, then there is nothing to be read. -/
structure Fetches (setting : Setting) (state : State) (call : Call) (after : State) : Prop where
  phases : after.phases =
    let fetched := fetch setting state.sent call (max state.now call.start)
    [.done fetched.result fetched.finish]
  sent : after.sent = state.sent ++ (fetch setting state.sent call (max state.now call.start)).sent
  writes : after.writes = (fetch setting state.sent call (max state.now call.start)).writes
  others : ∀ key, key ≠ storeKey call.token →
    after.store.entryAt? key = state.store.entryAt? key
  replaced : ∀ write ∈ after.writes, 0 < write.ttl →
    after.store.entryAt? (storeKey call.token) = some ⟨write.value, write.expiresAt⟩ ∧
      ∃ claims finish, after.phases = [.done (.ok claims) finish] ∧
        Claims.ofBytes? write.value = some claims
  missing : (∀ write ∈ after.writes, write.ttl ≤ 0) → Bare after.store after.now call.token

/-- A call that is alone and finds nothing in the store fetches its answer. -/
theorem lookUp_fetches (quiet : state.toWorld.Quiet)
    (bare : Bare state.store state.now call.token) :
    Fetches setting state call (state.lookUp setting [call]) := by
  let looking := state.starting call
  let fetched := fetch setting state.sent call looking.now
  let read := storeRead setting looking call.token
  obtain ⟨-, earlier, standings, now, sent, writes, store⟩ := lookUp_ended setting quiet bare
  have phases : (state.lookUp setting [call]).phases = [.done fetched.result fetched.finish] := by
    rw [State.phases, earlier, standings]
    change ((state.standings ++ [Phase.starting]).set state.calls.length _).drop
      state.calls.length = _
    rw [quiet.aligned, List.set_append_right _ _ (Nat.le_refl _), Nat.sub_self, List.drop_left]
    rfl
  have stored : (state.lookUp setting [call]).store = replay read fetched.writes := store
  have listed : (state.lookUp setting [call]).writes = fetched.writes := writes
  refine ⟨phases, sent, listed, ?_, ?_, ?_⟩
  · intro key apart
    have others : ∀ write ∈ fetched.writes, write.key ≠ key := by
      intro write member
      obtain ⟨-, own, -⟩ := mem_writes_fetch member
      exact own ▸ Ne.symm apart
    rw [stored, replay_of_ne others]
    exact storeRead_of_ne apart
  · intro write member positive
    rw [listed] at member
    obtain ⟨single, own, -, claims, result, decodes⟩ := mem_writes_fetch member
    refine ⟨?_, claims, fetched.finish, phases.trans (by rw [← result]), decodes⟩
    rw [stored, show fetched.writes = [write] from single]
    change (read.set write.time write.key write.value write.ttl).entryAt? _ = _
    rw [Store.entryAt_set, if_pos ⟨own, positive⟩]
    rfl
  · intro harmless
    rw [listed] at harmless
    have bareStill : Bare looking.store looking.now call.token := bare.wait (Nat.le_max_left ..)
    have after : (state.lookUp setting [call]).now = fetched.finish := now
    rw [stored, after]
    exact ((storeRead_bare bareStill).wait (start_le_finish ..)).replay harmless

end State

end Gateway.Introspection
