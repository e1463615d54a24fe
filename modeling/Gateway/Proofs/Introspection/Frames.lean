import Gateway.Proofs.Introspection.Answers
import Gateway.Proofs.Introspection.Program
import Gateway.Proofs.Store

/-!
What a call leaves alone. Its moves touch no lock, no entry and no request of another token, and no
other call's place; the requests they add are sent at the present time. What it writes is under the
key of its token, and whom it enters into the agenda is for its token.
-/

namespace Gateway.Introspection

namespace World

/-- What a call for a token may have changed, and what not. -/
structure Confined (token : String) (id : CallId) (before after : World) : Prop where
  now : after.now = before.now
  calls : after.calls = before.calls
  others : ∀ other, other ≠ id → after.standings[other]? = before.standings[other]?
  lanes : ∀ other, other ≠ token → after.table.lane other = before.table.lane other
  entries : ∀ other, other ≠ token →
    after.store.entryAt? (storeKey other) = before.store.entryAt? (storeKey other)
  sent : ∃ more, after.sent = before.sent ++ more ∧
    ∀ sent ∈ more, sent.token = token ∧ sent.time = before.now

variable {setting : Setting} {world middle after : World} {call : Call} {id : CallId}
  {token : String}

namespace Confined

theorem refl (token : String) (id : CallId) (world : World) : Confined token id world world where
  now := rfl
  calls := rfl
  others _ _ := rfl
  lanes _ _ := rfl
  entries _ _ := rfl
  sent := ⟨[], by simp⟩

theorem trans (first : Confined token id world middle) (second : Confined token id middle after) :
    Confined token id world after where
  now := second.now.trans first.now
  calls := second.calls.trans first.calls
  others other apart := (second.others other apart).trans (first.others other apart)
  lanes other apart := (second.lanes other apart).trans (first.lanes other apart)
  entries other apart := (second.entries other apart).trans (first.entries other apart)
  sent := by
    obtain ⟨early, sentEarly, ownEarly⟩ := first.sent
    obtain ⟨late, sentLate, ownLate⟩ := second.sent
    refine ⟨early ++ late, by rw [sentLate, sentEarly, List.append_assoc], ?_⟩
    intro sent member
    rcases List.mem_append.mp member with inEarly | inLate
    · exact ownEarly sent inEarly
    · exact first.now ▸ ownLate sent inLate

theorem setPhase (confined : Confined token id world after) (phase : Phase) :
    Confined token id world (after.setPhase id phase) := by
  refine { confined with others := ?_ }
  intro other apart
  rw [World.setPhase, List.getElem?_set_ne (Ne.symm apart)]
  exact confined.others other apart

theorem conclude (confined : Confined token id world after) (generation : Option Nat)
    (result : Except GatewayError Claims) :
    Confined token id world (after.conclude id generation result) := by
  cases generation <;> exact confined.setPhase _

theorem setLane (id : CallId) (world : World) (token : String) (lane : Lane) :
    Confined token id world (world.setLane token lane) := by
  refine { refl token id world with lanes := ?_ }
  intro other apart
  rw [World.setLane, LockTable.lane_setLane, if_neg (Ne.symm apart)]

theorem look (id : CallId) (world : World) (token : String) :
    Confined token id world (world.look token).2 := by
  refine { refl token id world with entries := ?_ }
  intro other apart
  exact Store.entryAt_get_of_ne (storeKey_ne (Ne.symm apart))

theorem send (id : CallId) (world : World) (token : String) (request : Request) :
    Confined token id world (world.send (world.sending token request)) :=
  { refl token id world with sent := ⟨[world.sending token request], rfl, by simp [sending]⟩ }

theorem keep (id : CallId) (world : World) (setting : Setting) (call : Call) (claims : Claims)
    (bytes : Bytes) :
    Confined call.token id world (world.keep (world.writeOf setting call claims bytes)) := by
  refine { refl call.token id world with entries := ?_ }
  intro other apart
  have differ := storeKey_ne (Ne.symm apart)
  simp [World.keep, writeOf, Store.entryAt_set, differ]

end Confined

theorem advance_confined (setting : Setting) (called : world.calls[id]? = some call) :
    Confined call.token id world (world.advance setting id).1 := by
  have moved := advance_moved setting world id
  generalize world.advance setting id = after at moved ⊢
  have start := Confined.refl call.token id world
  have own : ∀ {other : Call}, world.calls[id]? = some other → other = call := fun here =>
    Option.some.inj (here.symm.trans called)
  cases moved with
  | still => exact start
  | pass => exact start.setPhase _
  | openLock other here =>
      obtain rfl := own here
      exact (Confined.setLane ..).setPhase _
  | joinLine other generation here =>
      obtain rfl := own here
      exact (Confined.setLane ..).setPhase _
  | hit other generation claims here =>
      obtain rfl := own here
      exact (Confined.look ..).setPhase _
  | miss other generation here =>
      obtain rfl := own here
      exact (Confined.look ..).setPhase _
  | refuse _ generation => exact start.conclude generation _
  | ask other generation request here =>
      obtain rfl := own here
      exact (Confined.send ..).setPhase _
  | fail _ generation => exact start.conclude generation _
  | take => exact start.conclude none _
  | keep other generation reply claims bytes here =>
      obtain rfl := own here
      exact (Confined.keep ..).conclude (some generation) _
  | withdraw other generation result finish here =>
      obtain rfl := own here
      exact (Confined.setLane ..).setPhase _
  | release other generation result finish here =>
      obtain rfl := own here
      exact (Confined.setLane ..).setPhase _

theorem Pursued.confined (called : world.calls[id]? = some call)
    (pursued : Pursued setting id world after) : Confined call.token id world after := by
  induction pursued with
  | here => exact .refl ..
  | further _ induction =>
      exact induction.trans (advance_confined setting (induction.calls ▸ called))

end World

namespace State

def IsFor (state : State) (token : String) (id : CallId) : Prop :=
  ∃ call, state.calls[id]? = some call ∧ call.token = token

/-- How a call for a token may have added to the writes and to the agenda. -/
structure Extends (token : String) (state after : State) : Prop where
  earlier : after.earlier = state.earlier
  writes : ∃ more, after.writes = state.writes ++ more ∧ ∀ write ∈ more, write.key = storeKey token
  agenda : after.agenda = state.agenda ∨
    ∃ entry, after.agenda = Timed.enter entry state.agenda ∧ state.IsFor token entry.item

variable {setting : Setting} {state after : State} {call : Call} {id : CallId} {token : String}
  {generation : Option Nat}

namespace Extends

theorem refl (token : String) (state : State) : Extends token state state :=
  ⟨rfl, ⟨[], by simp⟩, .inl rfl⟩

theorem finish (disciplined : state.toWorld.Disciplined) (id : CallId) (token : String)
    (generation : Option Nat) (result : Except GatewayError Claims) :
    Extends token state (state.finish id token generation result) := by
  cases generation with
  | none => exact ⟨rfl, ⟨[], by simp⟩, .inl rfl⟩
  | some held =>
      rw [finish_some]
      refine ⟨rfl, ⟨[], by simp⟩, ?_⟩
      cases next : ((state.table.lane token).lock held).waiting.head? with
      | none => exact .inl rfl
      | some first =>
          have queued := (disciplined.tended token).queued held
          obtain ⟨phase, stands, _⟩ := queued.line_queued first (List.mem_of_head? next)
          obtain ⟨calling, called, mine, _⟩ := World.exists_call_of_standing stands
          exact .inr ⟨⟨state.now, first⟩, rfl, calling, called, mine⟩

theorem receive (disciplined : state.toWorld.Disciplined) (setting : Setting) (id : CallId)
    (call : Call) (generation : Option Nat) (reply : Reply) :
    Extends call.token state (state.receive setting id call generation reply) := by
  unfold State.receive
  split
  · exact finish disciplined ..
  · exact finish disciplined ..
  · rename_i claims bytes held judged
    let write := state.toWorld.writeOf setting call claims bytes
    let kept : State := { state with
      toWorld := state.toWorld.keep write
      writes := state.writes ++ [write] }
    have keptDisciplined : kept.toWorld.Disciplined := disciplined.congr rfl rfl rfl
    obtain ⟨earlier, _, agenda⟩ := finish keptDisciplined id call.token (some held) (.ok claims)
    refine ⟨earlier, ⟨[write], finish_writes .., ?_⟩, agenda⟩
    simp [write, World.writeOf]

theorem ask (disciplined : state.toWorld.Disciplined) (setting : Setting)
    (called : state.calls[id]? = some call) (generation : Option Nat) :
    Extends call.token state (state.ask setting id call generation) := by
  unfold State.ask
  split
  · exact finish disciplined ..
  · rename_i request made
    let asked : State :=
      { state with toWorld := state.toWorld.send (state.toWorld.sending call.token request) }
    have askedDisciplined : asked.toWorld.Disciplined := disciplined.congr rfl rfl rfl
    dsimp only
    split
    · obtain ⟨earlier, writes, agenda⟩ := receive askedDisciplined setting id call generation
        (setting.server state.sent (state.toWorld.sending call.token request))
      exact ⟨earlier, writes, agenda⟩
    · exact ⟨rfl, ⟨[], by simp [setPhase, schedule]⟩, .inr ⟨_, rfl, call, called, rfl⟩⟩

theorem enter (disciplined : state.toWorld.Disciplined) (setting : Setting)
    (called : state.calls[id]? = some call) (generation : Nat) :
    Extends call.token state (state.enter setting id call generation) := by
  let read : State := { state with toWorld := (state.toWorld.look call.token).2 }
  have readDisciplined : read.toWorld.Disciplined := disciplined.congr rfl rfl rfl
  have calledStill : read.calls[id]? = some call := called
  unfold State.enter
  dsimp only
  split
  · rename_i claims found
    obtain ⟨earlier, writes, agenda⟩ :=
      finish readDisciplined id call.token (some generation) (.ok claims)
    exact ⟨earlier, writes, agenda⟩
  · obtain ⟨earlier, writes, agenda⟩ := ask readDisciplined setting calledStill (some generation)
    exact ⟨earlier, writes, agenda⟩

theorem begin (disciplined : state.toWorld.Disciplined) (setting : Setting)
    (called : state.calls[id]? = some call) (stood : state.standings[id]? = some .starting) :
    Extends call.token state (state.begin setting id call) := by
  unfold State.begin
  split
  · exact ask disciplined setting called none
  · rename_i keeps
    have inLine := disciplined.pursue (lineUp_pursued keeps called stood)
    have calledStill : (state.lineUp id call.token).2.2.calls[id]? = some call := called
    dsimp only
    split
    · obtain ⟨earlier, writes, agenda⟩ := enter inLine setting calledStill
        (state.lineUp id call.token).2.1
      exact ⟨earlier, writes, agenda⟩
    · exact ⟨rfl, ⟨[], by simp [lineUp]⟩, .inl rfl⟩

theorem resume (disciplined : state.toWorld.Disciplined) (setting : Setting)
    (called : state.calls[id]? = some call) :
    Extends call.token state (state.resume setting id) := by
  unfold State.resume
  split
  · rename_i other here stood
    obtain rfl := Option.some.inj (called.symm.trans here)
    exact begin disciplined setting called stood
  · rename_i other generation here stood
    obtain rfl := Option.some.inj (called.symm.trans here)
    exact enter disciplined setting called generation
  · rename_i other generation reply here stood
    obtain rfl := Option.some.inj (called.symm.trans here)
    exact receive disciplined setting id call generation reply
  · exact refl call.token state

end Extends

end State

end Gateway.Introspection
