import Gateway.Proofs.Agenda
import Gateway.Proofs.Introspection.Frames

/-!
The agenda of the program. It names, each once and in order of time, the calls that can go on, and
no others; a call that is neither done nor named stands in line for a lock whose holder will hand it
on.
-/

namespace Gateway.Introspection

namespace Phase

def plain : Phase → Bool
  | .starting => true
  | .waiting _ => true
  | .calling _ _ => true
  | .done _ _ => true
  | _ => false

/-- Whether a call can go on once its time has come. -/
def Ready (lane : Lane) (id : CallId) : Phase → Prop
  | .starting => True
  | .waiting generation => (lane.lock generation).holder = some id
  | .calling _ _ => True
  | _ => False

/-- Who can go on after a holder left: those who could, and the first in line. -/
theorem ready_left {lane : Lane} {id other : CallId} {generation : Nat}
    (known : generation < lane.locks.length) (holds : (lane.lock generation).holder = some id)
    (apart : other ≠ id) (phase : Phase) :
    phase.Ready ((lane.forget generation).handOver generation).2 other ↔
      phase.Ready lane other ∨ phase.queued? = some generation ∧
        (lane.lock generation).waiting.head? = some other := by
  have inside : generation < (lane.forget generation).locks.length := by simpa using known
  cases phase with
  | waiting place =>
      simp only [Ready, queued?, Lane.handOver_holder inside, Lane.forget_lock]
      by_cases same : generation = place
      · subst same
        have notHere : (lane.lock generation).holder ≠ some other := by
          rw [holds]
          exact fun equal => apart (Option.some.inj equal).symm
        simp [notHere]
      · simp [same, Ne.symm same]
  | _ => simp [Ready, queued?]

end Phase

namespace World

/-- A call can go on once its time has come. -/
def Ready (world : World) (id : CallId) : Prop :=
  ∃ call phase, world.calls[id]? = some call ∧ world.standings[id]? = some phase ∧
    phase.Ready (world.table.lane call.token) id

variable {world : World} {call : Call} {id other : CallId} {old new : Phase} {generation : Nat}

theorem ready_iff (called : world.calls[id]? = some call)
    (stood : world.standings[id]? = some old) :
    world.Ready id ↔ old.Ready (world.table.lane call.token) id := by
  constructor
  · rintro ⟨calledHere, stoodHere, sameCall, samePhase, ready⟩
    obtain rfl := Option.some.inj (called.symm.trans sameCall)
    obtain rfl := Option.some.inj (stood.symm.trans samePhase)
    exact ready
  · intro ready
    exact ⟨call, old, called, stood, ready⟩

theorem ready_setPhase_of_ne (apart : other ≠ id) :
    (world.setPhase id new).Ready other ↔ world.Ready other := by
  simp only [Ready, setPhase, List.getElem?_set_ne (Ne.symm apart)]

theorem ready_setLane_of_ne {token : String} {lane : Lane} (apart : other ≠ id)
    (holders : ∀ generation, (lane.lock generation).holder = some other ↔
      ((world.table.lane token).lock generation).holder = some other) :
    ((world.setLane token lane).setPhase id new).Ready other ↔ world.Ready other := by
  rw [ready_setPhase_of_ne apart]
  have ready : ∀ (call : Call) (phase : Phase),
      phase.Ready ((world.setLane token lane).table.lane call.token) other ↔
        phase.Ready (world.table.lane call.token) other := by
    intro call phase
    rw [setLane, LockTable.lane_setLane]
    split
    · rename_i mine
      subst mine
      cases phase with
      | waiting generation => exact holders generation
      | _ => exact Iff.rfl
    · exact Iff.rfl
  unfold Ready
  simp only [ready]
  rfl

theorem not_ready_of_done {result : Except GatewayError Claims} {finish : Nat}
    (stood : world.standings[id]? = some (.done result finish)) : ¬world.Ready id := by
  rintro ⟨_, _, _, stoodHere, ready⟩
  obtain rfl := Option.some.inj (stood.symm.trans stoodHere)
  exact ready

theorem not_ready_of_line {token : String} (disciplined : world.Disciplined)
    (inLine : id ∈ ((world.table.lane token).lock generation).waiting) : ¬world.Ready id := by
  have queued := (disciplined.tended token).queued generation
  obtain ⟨phase, stands, place⟩ := queued.line_queued id inLine
  obtain ⟨calling, called, mine, stood⟩ := exists_call_of_standing stands
  rw [ready_iff called stood, mine]
  cases phase with
  | waiting other =>
      obtain rfl : other = generation := Option.some.inj place
      exact fun holds => queued.holder_apart id holds inLine
  | _ => cases place

/-- A call leaves its lock: the others can go on as before, and so can the first in line. -/
theorem ready_left {result : Except GatewayError Claims} {finish : Nat}
    (disciplined : world.Disciplined) (inside : id < world.standings.length)
    (known : generation < (world.table.lane call.token).locks.length)
    (holds : ((world.table.lane call.token).lock generation).holder = some id) :
    let lane := world.table.lane call.token
    let left := ((lane.forget generation).handOver generation).2
    ((world.setLane call.token left).setPhase id (.done result finish)).Ready other ↔
      world.Ready other ∧ other ≠ id ∨ (lane.lock generation).waiting.head? = some other := by
  intro lane left
  have queued := (disciplined.tended call.token).queued generation
  have lanes : ∀ token, (world.setLane call.token left).table.lane token =
      if call.token = token then left else world.table.lane token :=
    fun token => LockTable.lane_setLane _ _ token _
  by_cases same : other = id
  · subst same
    have stoodThere : ((world.setLane call.token left).setPhase other
        (.done result finish)).standings[other]? = some (.done result finish) :=
      stood_setPhase inside _
    have notFirst : (lane.lock generation).waiting.head? ≠ some other := fun next =>
      queued.holder_apart other holds (List.mem_of_head? next)
    simp [not_ready_of_done stoodThere, notFirst]
  rw [ready_setPhase_of_ne same]
  constructor
  · rintro ⟨calling, phase, called, stood, ready⟩
    rw [lanes] at ready
    split at ready
    · rename_i mine
      rcases (Phase.ready_left known holds same phase).mp ready with before | ⟨_, next⟩
      · exact .inl ⟨⟨calling, phase, called, stood, mine ▸ before⟩, same⟩
      · exact .inr next
    · exact .inl ⟨⟨calling, phase, called, stood, ready⟩, same⟩
  · rintro (⟨⟨calling, phase, called, stood, ready⟩, _⟩ | next)
    · refine ⟨calling, phase, called, stood, ?_⟩
      rw [lanes]
      split
      · rename_i mine
        exact (Phase.ready_left known holds same phase).mpr (.inl (mine ▸ ready))
      · exact ready
    · obtain ⟨phase, stands, inLine⟩ := queued.line_queued other (List.mem_of_head? next)
      obtain ⟨calling, called, mine, stood⟩ := exists_call_of_standing stands
      refine ⟨calling, phase, called, stood, ?_⟩
      rw [lanes, if_pos mine.symm]
      exact (Phase.ready_left known holds same phase).mpr (.inr ⟨inLine, next⟩)

/-- For a call that waits for a lock, somebody who has got in line or holds it can go on. -/
theorem exists_ready_of_waiting (disciplined : world.Disciplined)
    (plain : ∀ phase ∈ world.standings, phase.plain = true)
    (called : world.calls[id]? = some call)
    (stood : world.standings[id]? = some (.waiting generation)) :
    ∃ holder phase, world.standings[holder]? = some phase ∧ phase ≠ .starting ∧
      world.Ready holder := by
  have queued := (disciplined.tended call.token).queued generation
  have taken : ((world.table.lane call.token).lock generation).holder ≠ none := by
    intro free
    rcases queued.queued_placed id _ (standing_eq called stood) rfl with holds | inLine
    · rw [free] at holds
      cases holds
    · rw [queued.line_held free] at inLine
      cases inLine
  obtain ⟨holder, holds⟩ := Option.ne_none_iff_exists'.mp taken
  obtain ⟨phase, stands, engaged⟩ := queued.holder_stands holder holds
  obtain ⟨calling, calledHolder, mine, stoodHolder⟩ := exists_call_of_standing stands
  have plainHolder := plain phase (List.mem_of_getElem? stoodHolder)
  have ready := ready_iff calledHolder stoodHolder
  rw [mine] at ready
  cases phase with
  | waiting other =>
      obtain rfl : other = generation := by simpa [Phase.queued?, Phase.held?] using engaged
      exact ⟨holder, _, stoodHolder, by simp, ready.mpr holds⟩
  | calling => exact ⟨holder, _, stoodHolder, by simp, ready.mpr trivial⟩
  | starting => simp [Phase.queued?, Phase.held?] at engaged
  | done => simp [Phase.queued?, Phase.held?] at engaged
  | _ => cases plainHolder

end World

namespace State

@[simp]
theorem setPhase_toWorld (state : State) (id : CallId) (phase : Phase) :
    (state.setPhase id phase).toWorld = state.toWorld.setPhase id phase := rfl

def InHand (state : State) (id : CallId) (token : String) (generation : Option Nat) : Prop :=
  ∀ held, generation = some held → held < (state.table.lane token).locks.length ∧
    ((state.table.lane token).lock held).holder = some id

/-- The agenda names the calls that can go on, but for the one that is just going on. -/
structure Planned (running : Option CallId) (state : State) : Prop where
  inOrder : Timed.InOrder state.agenda
  ahead : ∀ entry ∈ state.agenda, state.now ≤ entry.time
  once : (state.agenda.map Timed.item).Nodup
  named : ∀ id, id ∈ state.agenda.map Timed.item ↔ state.Ready id ∧ running ≠ some id
  plain : ∀ phase ∈ state.standings, phase.plain = true

variable {setting : Setting} {state after : State} {call : Call} {id : CallId}
  {generation : Option Nat} {running next : Option CallId}

namespace Planned

theorem transfer (planned : Planned running state) (agenda : after.agenda = state.agenda)
    (now : after.now = state.now)
    (ready : ∀ id, after.Ready id ∧ next ≠ some id ↔ state.Ready id ∧ running ≠ some id)
    (plain : ∀ phase ∈ after.standings, phase.plain = true) : Planned next after where
  inOrder := agenda ▸ planned.inOrder
  ahead := by
    rw [agenda, now]
    exact planned.ahead
  once := agenda ▸ planned.once
  named id := by
    rw [agenda, planned.named, ready]
  plain := plain

theorem plain_set (planned : Planned running state) {phase : Phase} (plain : phase.plain = true) :
    ∀ other ∈ state.standings.set id phase, other.plain = true := by
  intro other member
  rcases List.mem_or_eq_of_mem_set member with old | rfl
  · exact planned.plain other old
  · exact plain

theorem schedule {time : Nat} (planned : Planned (some id) state) (ready : state.Ready id)
    (later : state.now ≤ time) : Planned none (state.schedule time id) where
  inOrder := Timed.enter_inOrder planned.inOrder
  ahead entry member := by
    rcases Timed.mem_enter.mp member with rfl | old
    · exact later
    · exact planned.ahead entry old
  once := by
    have entered := (Timed.enter_perm ⟨time, id⟩ state.agenda).map Timed.item
    have absent : id ∉ state.agenda.map Timed.item := by simp [planned.named]
    exact entered.nodup_iff.mpr (List.nodup_cons.mpr ⟨absent, planned.once⟩)
  named other := by
    have entered := (Timed.enter_perm ⟨time, id⟩ state.agenda).map Timed.item
    have members : other ∈ (state.schedule time id).agenda.map Timed.item ↔
        other = id ∨ other ∈ state.agenda.map Timed.item := by
      simpa [State.schedule] using entered.mem_iff
    have unchanged : (state.schedule time id).Ready other ↔ state.Ready other := Iff.rfl
    rw [members, planned.named, unchanged]
    by_cases same : other = id
    · simp [same, ready]
    · simp [same, Ne.symm same]
  plain := planned.plain

/-- A call that has its result leaves its lock, and the next in line is entered. -/
theorem finish (planned : Planned (some id) state) (disciplined : state.toWorld.Disciplined)
    (inside : id < state.standings.length) (inHand : state.InHand id call.token generation)
    (result : Except GatewayError Claims) :
    Planned none (state.finish id call.token generation result) := by
  have plain : ∀ other ∈ state.standings.set id (.done result state.now), other.plain = true :=
    planned.plain_set rfl
  cases generation with
  | none =>
      refine planned.transfer rfl rfl ?_ plain
      intro other
      by_cases same : id = other
      · subst same
        have stuck := World.not_ready_of_done (World.stood_setPhase inside
          (.done result state.now))
        simp [State.finish, stuck]
      · have apart : other ≠ id := Ne.symm same
        simp [State.finish, same, World.ready_setPhase_of_ne apart]
  | some held =>
      obtain ⟨known, holds⟩ := inHand held rfl
      let lane := state.table.lane call.token
      let left : State := { state with
        toWorld := (state.toWorld.setLane call.token
          ((lane.forget held).handOver held).2).setPhase id (.done result state.now) }
      have ready : ∀ other, left.Ready other ↔ state.Ready other ∧ other ≠ id ∨
          (lane.lock held).waiting.head? = some other := fun other =>
        World.ready_left disciplined inside known holds
      have finished : state.finish id call.token (some held) result =
          (lane.lock held).waiting.head?.elim left fun first => left.schedule left.now first := by
        rw [finish_some]
        cases (lane.lock held).waiting.head? <;> rfl
      rw [finished]
      cases next : (lane.lock held).waiting.head? with
      | some first =>
          have stuck := World.not_ready_of_line disciplined (List.mem_of_head? next)
          have moved : Planned (some first) left := by
            refine planned.transfer rfl rfl ?_ plain
            intro other
            rw [ready, next]
            by_cases same : first = other
            · subst same
              simp [stuck]
            · simp [same, ne_comm]
          exact moved.schedule ((ready first).mpr (.inr next)) (Nat.le_refl _)
      | none =>
          have moved : Planned none left := by
            refine planned.transfer rfl rfl ?_ plain
            intro other
            rw [ready, next]
            simp [ne_comm]
          exact moved

theorem receive {reply : Reply} (planned : Planned (some id) state)
    (disciplined : state.toWorld.Disciplined) (inside : id < state.standings.length)
    (inHand : state.InHand id call.token generation) :
    Planned none (state.receive setting id call generation reply) := by
  unfold State.receive
  split
  · exact planned.finish disciplined inside inHand _
  · exact planned.finish disciplined inside inHand _
  · rename_i claims bytes held judged
    let write := state.toWorld.writeOf setting call claims bytes
    let kept : State := { state with
      toWorld := state.toWorld.keep write
      writes := state.writes ++ [write] }
    have plannedStill : Planned (some id) kept :=
      planned.transfer rfl rfl (fun _ => Iff.rfl) planned.plain
    have disciplinedStill : kept.toWorld.Disciplined := disciplined.congr rfl rfl rfl
    exact plannedStill.finish disciplinedStill inside inHand _

theorem ask (planned : Planned (some id) state) (disciplined : state.toWorld.Disciplined)
    (called : state.calls[id]? = some call) (inside : id < state.standings.length)
    (inHand : state.InHand id call.token generation) :
    Planned none (state.ask setting id call generation) := by
  unfold State.ask
  split
  · exact planned.finish disciplined inside inHand _
  · rename_i request made
    let sent := state.toWorld.sending call.token request
    let asked : State := { state with toWorld := state.toWorld.send sent }
    have plannedStill : Planned (some id) asked :=
      planned.transfer rfl rfl (fun _ => Iff.rfl) planned.plain
    have disciplinedStill : asked.toWorld.Disciplined := disciplined.congr rfl rfl rfl
    dsimp only
    split
    · exact plannedStill.receive disciplinedStill inside inHand
    · generalize setting.server state.sent sent = reply
      have stood : (asked.setPhase id (.calling generation reply)).standings[id]? =
          some (.calling generation reply) := World.stood_setPhase inside _
      have calledStill : (asked.setPhase id (.calling generation reply)).calls[id]? = some call :=
        called
      have moved : Planned (some id) (asked.setPhase id (.calling generation reply)) := by
        refine plannedStill.transfer rfl rfl ?_ (plannedStill.plain_set rfl)
        intro other
        by_cases same : id = other
        · simp [same]
        · simp [World.ready_setPhase_of_ne (Ne.symm same)]
      have ready := (World.ready_iff calledStill stood).mpr trivial
      exact moved.schedule ready (Nat.le_add_right _ _)

theorem enter {held : Nat} (planned : Planned (some id) state)
    (disciplined : state.toWorld.Disciplined) (called : state.calls[id]? = some call)
    (inside : id < state.standings.length) (inHand : state.InHand id call.token (some held)) :
    Planned none (state.enter setting id call held) := by
  let read : State := { state with toWorld := (state.toWorld.look call.token).2 }
  have plannedStill : Planned (some id) read :=
    planned.transfer rfl rfl (fun _ => Iff.rfl) planned.plain
  have disciplinedStill : read.toWorld.Disciplined := disciplined.congr rfl rfl rfl
  have inHandStill : read.InHand id call.token (some held) := inHand
  unfold State.enter
  dsimp only
  split
  · exact plannedStill.finish disciplinedStill inside inHandStill _
  · exact plannedStill.ask disciplinedStill called inside inHandStill

theorem rest (planned : Planned (some id) state) (stuck : ¬state.Ready id) :
    Planned none state := by
  refine planned.transfer rfl rfl ?_ planned.plain
  intro other
  by_cases same : id = other
  · subst same
    simp [stuck]
  · simp [same]

theorem lineUp (planned : Planned (some id) state) (disciplined : state.toWorld.Disciplined)
    (called : state.calls[id]? = some call) (stood : state.standings[id]? = some .starting) :
    Planned (some id) (state.lineUp id call.token).2.2 := by
  have known := opened_known disciplined called stood
  refine planned.transfer rfl rfl ?_ (planned.plain_set rfl)
  intro other
  by_cases same : id = other
  · simp [same]
  · have apart : other ≠ id := Ne.symm same
    have unchanged : (state.lineUp id call.token).2.2.Ready other ↔ state.Ready other := by
      rw [lineUp_toWorld]
      apply World.ready_setLane_of_ne apart
      intro generation
      rw [Lane.acquire_holder_of_ne known apart, Lane.openLock_lock]
    rw [unchanged]

theorem begin (planned : Planned (some id) state) (disciplined : state.toWorld.Disciplined)
    (called : state.calls[id]? = some call) (stood : state.standings[id]? = some .starting) :
    Planned none (state.begin setting id call) := by
  have inside : id < state.standings.length := (List.getElem?_eq_some_iff.mp stood).1
  have known := opened_known disciplined called stood
  unfold State.begin
  split
  · exact planned.ask disciplined called inside (fun _ nothing => by cases nothing)
  · rename_i keeps
    have planned := planned.lineUp disciplined called stood
    have inLine := disciplined.pursue (lineUp_pursued keeps called stood)
    have insideStill : id < (state.lineUp id call.token).2.2.standings.length := by
      rw [lineUp_toWorld]
      simpa [World.setPhase, World.setLane] using inside
    dsimp only
    split
    · rename_i taken
      apply planned.enter inLine called insideStill
      rintro held ⟨⟩
      refine ⟨?_, lineUp_holds disciplined called stood taken⟩
      rw [lineUp_lane, Lane.acquire_length]
      exact known
    · rename_i notTaken
      rw [lineUp_taken] at notTaken
      have waiting : id ∈ (((state.lineUp id call.token).2.2.table.lane call.token).lock
          (state.table.lane call.token).openLock.1).waiting := by
        rw [lineUp_lane]
        exact Lane.acquire_inLine known notTaken
      exact planned.rest (World.not_ready_of_line inLine waiting)

theorem resume (planned : Planned (some id) state) (disciplined : state.toWorld.Disciplined)
    (ready : state.Ready id) : Planned none (state.resume setting id) := by
  obtain ⟨call, phase, called, stood, able⟩ := ready
  have inside : id < state.standings.length := (List.getElem?_eq_some_iff.mp stood).1
  have tended := disciplined.tended call.token
  have stands := World.standing_eq called stood
  unfold State.resume
  cases phase with
  | starting =>
      simp only [called, stood]
      exact planned.begin disciplined called stood
  | waiting generation =>
      simp only [called, stood]
      apply planned.enter disciplined called inside
      rintro held ⟨⟩
      exact ⟨tended.listed.known id _ _ stands rfl, able⟩
  | calling generation reply =>
      simp only [called, stood]
      apply planned.receive disciplined inside
      rintro held rfl
      exact ⟨tended.listed.known id _ _ stands rfl,
        (tended.queued held).held_holds id _ stands rfl⟩
  | _ => exact able.elim

end Planned

/-- A call that can go on makes moves of its own. -/
theorem resume_pursued (setting : Setting) (disciplined : state.toWorld.Disciplined)
    (ready : state.Ready id) :
    World.Pursued setting id state.toWorld (state.resume setting id).toWorld := by
  obtain ⟨call, phase, called, stood, able⟩ := ready
  have inside : id < state.standings.length := (List.getElem?_eq_some_iff.mp stood).1
  unfold resume
  cases phase with
  | starting =>
      simp only [called, stood]
      exact begin_pursued disciplined called stood
  | waiting generation =>
      simp only [called, stood]
      exact enter_pursued called stood able
  | calling generation reply =>
      simp only [called, stood]
      have received : World.Pursued setting id
          (state.toWorld.setPhase id (.calling generation reply))
          (state.receive setting id call generation reply).toWorld := receive_pursued called inside
      rwa [World.setPhase_self stood] at received
  | _ => exact able.elim

structure Scheduled (state : State) : Prop where
  disciplined : state.toWorld.Disciplined
  planned : Planned none state

theorem Scheduled.turnTo {event : Timed CallId} {rest : List (Timed CallId)}
    (scheduled : state.Scheduled) (due : state.agenda = event :: rest) :
    (state.turnTo event rest).toWorld.Disciplined ∧
      Planned (some event.item) (state.turnTo event rest) ∧
      (state.turnTo event rest).Ready event.item := by
  obtain ⟨disciplined, planned⟩ := scheduled
  have inOrder := due ▸ planned.inOrder
  have once := due ▸ planned.once
  obtain ⟨least, tail⟩ := List.pairwise_cons.mp inOrder
  obtain ⟨absent, onceRest⟩ := List.nodup_cons.mp once
  have named : ∀ id, id = event.item ∨ id ∈ rest.map Timed.item ↔ state.Ready id := by
    intro id
    have old := planned.named id
    rw [due] at old
    simpa using old
  refine ⟨disciplined.congr rfl rfl rfl, ?_, (named event.item).mp (.inl rfl)⟩
  refine ⟨tail, least, onceRest, ?_, planned.plain⟩
  intro id
  have unchanged : (state.turnTo event rest).Ready id ↔ state.Ready id := Iff.rfl
  rw [unchanged, ← named]
  constructor
  · intro later
    refine ⟨.inr later, ?_⟩
    rintro ⟨⟩
    exact absent later
  · rintro ⟨rfl | later, apart⟩
    · exact absurd rfl apart
    · exact later

theorem Scheduled.step (scheduled : state.Scheduled) (setting : Setting) :
    (state.step setting).Scheduled := by
  unfold State.step
  split
  · exact scheduled
  · rename_i event rest due
    obtain ⟨disciplined, planned, ready⟩ := scheduled.turnTo due
    have pursued := resume_pursued setting disciplined ready
    exact ⟨disciplined.pursue pursued, planned.resume disciplined ready⟩

theorem Scheduled.run (scheduled : state.Scheduled) (setting : Setting) (count : Nat) :
    (state.run setting count).Scheduled := by
  induction count generalizing state with
  | zero => exact scheduled
  | succ count induction => exact induction (scheduled.step setting)

end State

end Gateway.Introspection
