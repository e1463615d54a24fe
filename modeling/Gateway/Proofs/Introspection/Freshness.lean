import Gateway.Proofs.Introspection.Answers
import Gateway.Proofs.Introspection.Moves
import Gateway.Proofs.Store

/-!
Where answers come from. The events of a run are its history: the store holds, of the answers that
were kept for a token, the latest one, and a call returns either the reply to its own request or an
answer that is in the store and still alive.
-/

namespace Gateway.Introspection

def Event.write? : Event → Option Write
  | .stored _ write => some write
  | _ => none

/-- The latest of the writes under a key that the store kept. -/
def lastKept (events : List Event) (key : String) : Option Write :=
  ((events.filterMap Event.write?).filter fun write => write.key = key ∧ 0 < write.ttl).getLast?

theorem lastKept_append (events more : List Event) (key : String) :
    lastKept (events ++ more) key = (lastKept more key).or (lastKept events key) := by
  simp [lastKept, List.getLast?_append]

theorem lastKept_of_no_write {more : List Event} (quiet : ∀ id write, .stored id write ∉ more)
    (events : List Event) (key : String) : lastKept (events ++ more) key = lastKept events key := by
  have nothing : more.filterMap Event.write? = [] := by
    rw [List.filterMap_eq_nil_iff]
    intro event member
    cases event with
    | stored id write => exact absurd member (quiet id write)
    | _ => rfl
  rw [lastKept_append]
  simp [lastKept, nothing]

theorem lastKept_mem {events : List Event} {key : String} {write : Write}
    (last : lastKept events key = some write) :
    (∃ id, .stored id write ∈ events) ∧ write.key = key ∧ 0 < write.ttl := by
  obtain ⟨written, here, kept⟩ := by
    simpa [and_assoc] using List.mem_filter.mp (List.mem_of_getLast? last)
  obtain ⟨event, member, shows⟩ := written
  cases event with
  | stored id other =>
      obtain rfl : other = write := Option.some.inj shows
      exact ⟨⟨id, member⟩, here, kept⟩
  | _ => cases shows

section

variable (setting : Setting) (calls : List Call) (events : List Event)

/-- A call sent the introspector's request for its token and got this reply. -/
structure Asked (id : CallId) (call : Call) (sent : Sent) (reply : Reply) : Prop where
  shown : .asked id sent reply ∈ events
  token : sent.token = call.token
  request : setting.introspector.request call.context call.token = .ok sent.request

/-- A call had this reply to a request of its own. -/
def Answered (id : CallId) (call : Call) (claims : Claims) (bytes : Bytes) : Prop :=
  ∃ sent reply, Asked setting events id call sent reply ∧
    setting.introspector.Accepts reply claims bytes

/-- A call stored its own reply, for as long as the claims and the call allow. -/
structure Deposited (id : CallId) (call : Call) (claims : Claims) (write : Write) : Prop where
  called : calls[id]? = some call
  stored : .stored id write ∈ events
  keyed : write.key = storeKey call.token
  answered : Answered setting events id call claims write.value
  allowed : write.ttl =
    cacheTtl setting.ttl claims call.expiry call.notBefore (setting.wall write.time)

/-- The latest answer that was kept for a token, while it is alive. -/
structure Remembered (token : String) (claims : Claims) (time : Nat) (id : CallId) (call : Call)
    (write : Write) : Prop where
  latest : lastKept events (storeKey token) = some write
  deposited : Deposited setting calls events id call claims write
  mine : call.token = token
  decodes : Claims.ofBytes? write.value = some claims
  since : write.time ≤ time
  alive : (time : Int) < write.time + 1000 * write.ttl
  /-- It is not used any more once the token has expired. -/
  unexpired : 0 < effectiveExpiry claims call.expiry →
    (time : Int) - write.time <
      1000 * (effectiveExpiry claims call.expiry - setting.wall write.time)

/-- Where the answer that an event returns comes from, looking back at the events before it. -/
def Grounded : Event → Prop
  | .returned id (.ok claims) time => ∃ call, calls[id]? = some call ∧
      ((∃ bytes, Answered setting events id call claims bytes) ∨
        ∃ depositor earlier write,
          Remembered setting calls events call.token claims time depositor earlier write)
  | _ => True

/-- What the phase of a call tells about the events. -/
def Voiced (id : CallId) : Phase → Prop
  | .calling _ reply =>
      ∃ call sent, calls[id]? = some call ∧ Asked setting events id call sent reply
  | .leaving _ result finish => .returned id result finish ∈ events
  | .releasing _ result finish => .returned id result finish ∈ events
  | .done result finish => .returned id result finish ∈ events
  | _ => True

end

variable {setting : Setting} {calls : List Call} {events : List Event} {id : CallId} {call : Call}
  {claims : Claims} {bytes : Bytes} {write : Write}

theorem Asked.mono {sent : Sent} {reply : Reply} (asked : Asked setting events id call sent reply)
    (more : List Event) : Asked setting (events ++ more) id call sent reply :=
  { asked with shown := List.mem_append_left more asked.shown }

theorem Answered.mono (answered : Answered setting events id call claims bytes)
    (more : List Event) : Answered setting (events ++ more) id call claims bytes := by
  obtain ⟨sent, reply, asked, accepted⟩ := answered
  exact ⟨sent, reply, asked.mono more, accepted⟩

theorem Deposited.mono (deposited : Deposited setting calls events id call claims write)
    (more : List Event) : Deposited setting calls (events ++ more) id call claims write :=
  { deposited with
    stored := List.mem_append_left more deposited.stored
    answered := deposited.answered.mono more }

theorem Voiced.mono {phase : Phase} (voiced : Voiced setting calls events id phase)
    (more : List Event) : Voiced setting calls (events ++ more) id phase := by
  cases phase with
  | calling generation reply =>
      obtain ⟨call, sent, called, asked⟩ := voiced
      exact ⟨call, sent, called, asked.mono more⟩
  | leaving => exact List.mem_append_left more voiced
  | releasing => exact List.mem_append_left more voiced
  | done => exact List.mem_append_left more voiced
  | _ => trivial

section

variable (arrived : Call)

theorem getElem_append_call {calls : List Call} (called : calls[id]? = some call) :
    (calls ++ [arrived])[id]? = some call := by
  obtain ⟨bound, _⟩ := List.getElem?_eq_some_iff.mp called
  rwa [List.getElem?_append_left bound]

theorem Deposited.arrive (deposited : Deposited setting calls events id call claims write) :
    Deposited setting (calls ++ [arrived]) events id call claims write :=
  { deposited with called := getElem_append_call arrived deposited.called }

theorem Grounded.arrive {event : Event} (grounded : Grounded setting calls events event) :
    Grounded setting (calls ++ [arrived]) events event := by
  unfold Grounded at grounded ⊢
  split
  · obtain ⟨call, called, own | ⟨depositor, earlier, write, remembered⟩⟩ := grounded
    · exact ⟨call, getElem_append_call arrived called, .inl own⟩
    · have deposited := remembered.deposited.arrive arrived
      exact ⟨call, getElem_append_call arrived called,
        .inr ⟨depositor, earlier, write, { remembered with deposited }⟩⟩
  · trivial

theorem Voiced.arrive {phase : Phase} (voiced : Voiced setting calls events id phase) :
    Voiced setting (calls ++ [arrived]) events id phase := by
  cases phase with
  | calling generation reply =>
      obtain ⟨call, sent, called, asked⟩ := voiced
      exact ⟨call, sent, getElem_append_call arrived called, asked⟩
  | leaving => exact voiced
  | releasing => exact voiced
  | done => exact voiced
  | _ => trivial

end

structure Ledger (setting : Setting) (calls : List Call) (events : List Event) (now : Nat)
    (store : Store) : Prop where
  past : ∀ id write, .stored id write ∈ events → write.time ≤ now
  kept : ∀ token entry, store.entryAt? (storeKey token) = some entry →
    ∃ write, lastKept events (storeKey token) = some write ∧
      entry = ⟨write.value, write.time + write.ttl.toNat * 1000⟩
  deposited : ∀ id write, .stored id write ∈ events →
    ∃ call claims, Deposited setting calls events id call claims write

namespace Ledger

variable {now : Nat} {store : Store}

theorem quiet {more : List Event} (ledger : Ledger setting calls events now store)
    (noWrite : ∀ id write, .stored id write ∉ more) :
    Ledger setting calls (events ++ more) now store where
  past id write stored := by
    rcases List.mem_append.mp stored with old | new
    · exact ledger.past id write old
    · exact absurd new (noWrite id write)
  kept token entry present := by
    rw [lastKept_of_no_write noWrite]
    exact ledger.kept token entry present
  deposited id write stored := by
    rcases List.mem_append.mp stored with old | new
    · obtain ⟨call, claims, deposited⟩ := ledger.deposited id write old
      exact ⟨call, claims, deposited.mono more⟩
    · exact absurd new (noWrite id write)

theorem look (ledger : Ledger setting calls events now store) (time : Nat) (key : String) :
    Ledger setting calls events now (store.get time key).2 where
  past := ledger.past
  kept token entry present := ledger.kept token entry (Store.entry_of_get present)
  deposited := ledger.deposited

theorem wait (ledger : Ledger setting calls events now store) (millis : Nat) :
    Ledger setting calls events (now + millis) store :=
  { ledger with past := fun id write stored =>
      Nat.le_add_right_of_le (ledger.past id write stored) }

theorem arrive (ledger : Ledger setting calls events now store) (arrived : Call) :
    Ledger setting (calls ++ [arrived]) events now store where
  past := ledger.past
  kept := ledger.kept
  deposited id write stored := by
    obtain ⟨call, claims, deposited⟩ := ledger.deposited id write stored
    exact ⟨call, claims, deposited.arrive arrived⟩

theorem keep (ledger : Ledger setting calls events now store)
    (deposited : Deposited setting calls (events ++ [.stored id write]) id call claims write)
    (present : write.time = now) :
    Ledger setting calls (events ++ [.stored id write]) now
      (store.set now write.key write.value write.ttl) where
  past other earlier stored := by
    rcases List.mem_append.mp stored with old | new
    · exact ledger.past other earlier old
    · obtain ⟨rfl, rfl⟩ : other = id ∧ earlier = write := by simpa using new
      exact present.le
  kept token entry there := by
    rw [lastKept_append]
    rw [Store.entryAt_set] at there
    by_cases replaced : write.key = storeKey token ∧ 0 < write.ttl
    · rw [if_pos replaced] at there
      refine ⟨write, by simp [lastKept, Event.write?, replaced], ?_⟩
      rw [present]
      exact (Option.some.inj there).symm
    · rw [if_neg replaced] at there
      obtain ⟨last, latest, same⟩ := ledger.kept token entry there
      refine ⟨last, ?_, same⟩
      simpa [lastKept, Event.write?, replaced] using latest
  deposited other earlier stored := by
    rcases List.mem_append.mp stored with old | new
    · obtain ⟨depositor, said, past⟩ := ledger.deposited other earlier old
      exact ⟨depositor, said, past.mono _⟩
    · obtain ⟨rfl, rfl⟩ : other = id ∧ earlier = write := by simpa using new
      exact ⟨call, claims, deposited⟩

/-- What a look into the store finds is the latest kept answer of the token, still alive. -/
theorem remembered {world : World} {token : String}
    (ledger : Ledger setting world.calls events world.now world.store)
    (found : (world.look token).1 = some claims) :
    ∃ depositor call write,
      Remembered setting world.calls events token claims world.now depositor call write := by
  obtain ⟨value, live, decodes⟩ : ∃ value, world.store.live? world.now (storeKey token) =
      some value ∧ Claims.ofBytes? value = some claims := by
    simpa [World.look, Store.get_fst, Option.bind_eq_some_iff] using found
  obtain ⟨entry, there, alive, holds⟩ := Store.live_eq_some live
  obtain ⟨write, latest, same⟩ := ledger.kept token entry there
  obtain ⟨⟨depositor, stored⟩, keyed, positive⟩ := lastKept_mem latest
  obtain ⟨call, said, deposited⟩ := ledger.deposited depositor write stored
  have mine : call.token = token := storeKey_injective (deposited.keyed.symm.trans keyed)
  have readable : Claims.ofBytes? write.value = some claims := by
    rw [same] at holds
    have unchanged : write.value = value := holds
    rwa [unchanged]
  obtain ⟨_, _, _, accepted⟩ := deposited.answered
  obtain rfl : said = claims := Option.some.inj (accepted.decodes.symm.trans readable)
  have inSeconds : (world.now : Int) < write.time + 1000 * write.ttl := by
    rw [same] at alive
    dsimp only at alive
    omega
  refine ⟨depositor, call, write, latest, deposited, mine, readable,
    ledger.past depositor write stored, inSeconds, ?_⟩
  intro ends
  have allowed := deposited.allowed
  have bounded := cacheTtl_le setting.ttl said call.expiry call.notBefore
    (setting.wall write.time) ends
  omega

end Ledger

def AllGrounded (setting : Setting) (calls : List Call) (events : List Event) : Prop :=
  ∀ earlier event later, events = earlier ++ event :: later → Grounded setting calls earlier event

def AllVoiced (setting : Setting) (calls : List Call) (events : List Event)
    (standings : List Phase) : Prop :=
  ∀ id phase, standings[id]? = some phase → Voiced setting calls events id phase

theorem AllGrounded.append {more : List Event} (grounded : AllGrounded setting calls events)
    (new : ∀ before event after, more = before ++ event :: after →
      Grounded setting calls (events ++ before) event) :
    AllGrounded setting calls (events ++ more) := by
  intro earlier event later split
  rcases List.append_eq_append_iff.mp split with ⟨before, rfl, rest⟩ | ⟨after, whole, rest⟩
  · exact new before event later rest
  · cases after with
    | nil =>
        have start : earlier = events := by simpa using whole.symm
        have fresh := new [] event later (by simpa using rest.symm)
        simpa [start] using fresh
    | cons first between =>
        obtain ⟨rfl, rfl⟩ := List.cons.inj rest
        exact grounded earlier event between whole

theorem AllGrounded.append_one {event : Event} (grounded : AllGrounded setting calls events)
    (new : Grounded setting calls events event) :
    AllGrounded setting calls (events ++ [event]) := by
  apply grounded.append
  intro before other after split
  obtain ⟨rfl, rfl, rfl⟩ : before = [] ∧ other = event ∧ after = [] := by
    cases before with
    | nil => simpa [eq_comm] using split
    | cons first rest => simp at split
  simpa using new

theorem AllVoiced.set {standings : List Phase} {new : Phase}
    (voiced : AllVoiced setting calls events standings) (more : List Event)
    (voicedNew : Voiced setting calls (events ++ more) id new) :
    AllVoiced setting calls (events ++ more) (standings.set id new) := by
  intro other phase stands
  by_cases same : id = other
  · subst same
    obtain ⟨bound, placed⟩ := List.getElem?_eq_some_iff.mp stands
    obtain rfl : new = phase := by simpa using placed
    exact voicedNew
  · rw [List.getElem?_set_ne same] at stands
    exact (voiced other phase stands).mono more

namespace Chronicle

variable {chronicle : Chronicle}

structure Recorded (setting : Setting) (chronicle : Chronicle) : Prop where
  ledger : Ledger setting chronicle.world.calls chronicle.events chronicle.world.now
    chronicle.world.store
  voiced : AllVoiced setting chronicle.world.calls chronicle.events chronicle.world.standings
  grounded : AllGrounded setting chronicle.world.calls chronicle.events

theorem conclude_voiced (setting : Setting) (world : World) (id : CallId) (generation : Option Nat)
    (result : Except GatewayError Claims) :
    ∃ phase, world.conclude id generation result = world.setPhase id phase ∧
      ∀ calls events, .returned id result world.now ∈ events →
        Voiced setting calls events id phase := by
  cases generation with
  | none => exact ⟨.done result world.now, rfl, fun _ _ member => member⟩
  | some generation => exact ⟨.leaving generation result world.now, rfl, fun _ _ member => member⟩

namespace Recorded

variable {world after : World} {phase : Phase} {more : List Event}
  {result : Except GatewayError Claims}

theorem move (recorded : Recorded setting ⟨world, events⟩)
    (ledger : Ledger setting world.calls (events ++ more) world.now after.store)
    (voicedNew : Voiced setting world.calls (events ++ more) id phase)
    (grounded : ∀ before event rest, more = before ++ event :: rest →
      Grounded setting world.calls (events ++ before) event)
    (sameCalls : after.calls = world.calls) (sameTime : after.now = world.now)
    (sameStandings : after.standings = world.standings) :
    Recorded setting ⟨after.setPhase id phase, events ++ more⟩ where
  ledger := by simpa only [World.setPhase, sameCalls, sameTime] using ledger
  voiced := by
    simp only [World.setPhase, sameCalls, sameStandings]
    exact recorded.voiced.set more voicedNew
  grounded := by
    simp only [World.setPhase, sameCalls]
    exact recorded.grounded.append grounded

theorem pass (recorded : Recorded setting ⟨world, events⟩)
    (ledger : Ledger setting world.calls events world.now after.store)
    (voicedNew : Voiced setting world.calls events id phase)
    (sameCalls : after.calls = world.calls) (sameTime : after.now = world.now)
    (sameStandings : after.standings = world.standings) :
    Recorded setting ⟨after.setPhase id phase, events ++ []⟩ := by
  refine recorded.move ?_ (voicedNew.mono []) ?_ sameCalls sameTime sameStandings
  · rwa [List.append_nil]
  · intro before event rest split
    simp at split

theorem report {event : Event} (recorded : Recorded setting ⟨world, events⟩)
    (ledger : Ledger setting world.calls events world.now after.store)
    (noWrite : event.write? = none)
    (voicedNew : Voiced setting world.calls (events ++ [event]) id phase)
    (grounded : Grounded setting world.calls events event)
    (sameCalls : after.calls = world.calls) (sameTime : after.now = world.now)
    (sameStandings : after.standings = world.standings) :
    Recorded setting ⟨after.setPhase id phase, events ++ [event]⟩ := by
  refine recorded.move ?_ voicedNew ?_ sameCalls sameTime sameStandings
  · apply ledger.quiet
    intro other write member
    obtain rfl : .stored other write = event := by simpa using member
    cases noWrite
  · intro before other rest split
    cases before with
    | nil =>
        obtain ⟨rfl, rfl⟩ := List.cons.inj split
        simpa using grounded
    | cons first between => simp at split

theorem conclude (recorded : Recorded setting ⟨world, events⟩) (generation : Option Nat)
    (grounded : Grounded setting world.calls events (.returned id result world.now)) :
    Recorded setting
      ⟨world.conclude id generation result, events ++ [.returned id result world.now]⟩ := by
  obtain ⟨phase, concluded, voicedNew⟩ := conclude_voiced setting world id generation result
  rw [concluded]
  exact recorded.report recorded.ledger rfl (voicedNew _ _ (by simp)) grounded rfl rfl rfl

theorem keep {generation : Nat} {reply : Reply} (recorded : Recorded setting ⟨world, events⟩)
    (called : world.calls[id]? = some call)
    (stood : world.standings[id]? = some (.calling (some generation) reply))
    (accepted : setting.introspector.Accepts reply claims bytes) :
    Recorded setting
      ⟨world.keep (world.writeOf setting call claims bytes),
        events ++ [.stored id (world.writeOf setting call claims bytes)]⟩ := by
  obtain ⟨ledger, voiced, grounded⟩ := recorded
  obtain ⟨_, sent, calledHere, asked⟩ := voiced id _ stood
  obtain rfl := Option.some.inj (called.symm.trans calledHere)
  have deposited : Deposited setting world.calls
      (events ++ [.stored id (world.writeOf setting call claims bytes)]) id call claims
      (world.writeOf setting call claims bytes) :=
    { called
      stored := by simp
      keyed := rfl
      answered := ⟨sent, reply, asked.mono _, accepted⟩
      allowed := rfl }
  refine ⟨ledger.keep deposited rfl, ?_, grounded.append_one trivial⟩
  intro other phase stands
  exact (voiced other phase stands).mono _

/-- Whatever a call does next, the history bears it out. -/
theorem advance (recorded : Recorded setting ⟨world, events⟩) (id : CallId) :
    Recorded setting
      ⟨(world.advance setting id).1, events ++ (world.advance setting id).2⟩ := by
  have moved := World.advance_moved setting world id
  generalize world.advance setting id = next at moved ⊢
  have ledger := recorded.ledger
  cases moved with
  | still => simpa using recorded
  | pass => exact recorded.pass ledger trivial rfl rfl rfl
  | openLock => exact recorded.pass ledger trivial rfl rfl rfl
  | joinLine => exact recorded.pass ledger trivial rfl rfl rfl
  | hit call generation claims called stood holds found =>
      exact recorded.report (ledger.look _ _) rfl (List.mem_append_right _ (by simp))
        ⟨call, called, .inr (ledger.remembered found)⟩ rfl rfl rfl
  | miss => exact recorded.pass (ledger.look _ _) trivial rfl rfl rfl
  | refuse call generation => exact recorded.conclude generation trivial
  | ask call generation request called stood made =>
      exact recorded.report ledger rfl
        ⟨call, world.sending call.token request, called, by simp, rfl, made⟩ trivial rfl rfl rfl
  | fail call generation => exact recorded.conclude generation trivial
  | take call reply claims bytes called stood answered =>
      obtain ⟨_, sent, calledHere, asked⟩ := recorded.voiced id _ stood
      obtain rfl := Option.some.inj (called.symm.trans calledHere)
      have own : Answered setting events id call claims bytes :=
        ⟨sent, reply, asked, Introspector.judge_eq_ok_iff.mp answered⟩
      exact recorded.conclude none ⟨call, called, .inl ⟨bytes, own⟩⟩
  | keep call generation reply claims bytes called stood answered =>
      have accepted := Introspector.judge_eq_ok_iff.mp answered
      have kept := recorded.keep called stood accepted
      obtain ⟨_, sent, calledHere, asked⟩ := recorded.voiced id _ stood
      obtain rfl := Option.some.inj (called.symm.trans calledHere)
      have own : Answered setting
          (events ++ [.stored id (world.writeOf setting call claims bytes)])
          id call claims bytes :=
        ⟨sent, reply, asked.mono _, accepted⟩
      have grounded : Grounded setting world.calls
          (events ++ [.stored id (world.writeOf setting call claims bytes)])
          (.returned id (.ok claims) world.now) := ⟨call, called, .inl ⟨bytes, own⟩⟩
      have returned := kept.conclude (some generation) grounded
      rw [List.append_assoc] at returned
      exact returned
  | withdraw call generation result finish called stood =>
      have leaving := recorded.voiced id _ stood
      have returned : Voiced setting world.calls events id (.releasing generation result finish) :=
        leaving
      exact recorded.pass ledger returned rfl rfl rfl
  | release call generation result finish called stood =>
      have releasing := recorded.voiced id _ stood
      have returned : Voiced setting world.calls events id (.done result finish) := releasing
      exact recorded.report ledger rfl (returned.mono _) trivial rfl rfl rfl

theorem step (recorded : Recorded setting chronicle) (turn : Turn) :
    Recorded setting (chronicle.step setting turn) := by
  obtain ⟨ledger, voiced, grounded⟩ := recorded
  cases turn with
  | arrive call =>
      refine ⟨ledger.arrive call, ?_, ?_⟩
      · intro id phase stands
        by_cases old : id < chronicle.world.standings.length
        · have stood := (List.getElem?_append_left old).symm.trans stands
          exact (voiced id phase stood).arrive call
        · have last := (List.getElem?_append_right (Nat.le_of_not_lt old)).symm.trans stands
          obtain rfl : .starting = phase := by
            simpa [eq_comm] using List.mem_of_getElem? last
          trivial
      · intro earlier event later split
        exact (grounded earlier event later split).arrive call
  | wait millis => exact ⟨ledger.wait millis, voiced, grounded⟩
  | go id => exact advance ⟨ledger, voiced, grounded⟩ id

theorem play (recorded : Recorded setting chronicle) (turns : List Turn) :
    Recorded setting (chronicle.play setting turns) := by
  induction turns generalizing chronicle with
  | nil => exact recorded
  | cons turn turns induction => exact induction (recorded.step turn)

end Recorded

theorem fresh_recorded (setting : Setting) : Recorded setting (fresh .empty) where
  ledger := { past := by simp [fresh], kept := by simp [fresh], deposited := by simp [fresh] }
  voiced := by simp [AllVoiced, fresh]
  grounded := by simp [AllGrounded, fresh]

/-- What the answers of a run promise to those that rely on them. -/
structure AnswersSound (setting : Setting) (chronicle : Chronicle) : Prop where
  /-- A call that is done returned its result at that time. -/
  returned : ∀ id result finish, chronicle.world.standings[id]? = some (.done result finish) →
    .returned id result finish ∈ chronicle.events
  /-- An answer is the call's own reply or the latest one kept for its token, still alive. -/
  grounded : ∀ earlier event later, chronicle.events = earlier ++ event :: later →
    Grounded setting chronicle.world.calls earlier event

theorem Recorded.answersSound (recorded : Recorded setting chronicle) :
    AnswersSound setting chronicle where
  returned id _ _ stands := recorded.voiced id _ stands
  grounded := recorded.grounded

/-- Over a store that was empty and in whatever order calls and clock move, no answer is stale and
none is another token's. -/
theorem answers_sound (setting : Setting) (turns : List Turn) :
    AnswersSound setting ((fresh .empty).play setting turns) :=
  ((fresh_recorded setting).play turns).answersSound

end Chronicle

end Gateway.Introspection
