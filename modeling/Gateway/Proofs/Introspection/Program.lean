import Gateway.Introspection.Run
import Gateway.Proofs.Introspection.Discipline

/-!
The program in terms of moves. What a call does at one go, until it has to wait, is a number of
moves of this call with no other move between them. What every move keeps is therefore kept by the
program.
-/

namespace Gateway.Introspection

namespace World

/-- A call makes some moves, and no other call does. -/
inductive Pursued (setting : Setting) (id : CallId) (world : World) : World → Prop where
  | here : Pursued setting id world world
  | further {after : World} (before : Pursued setting id world after) :
      Pursued setting id world (after.advance setting id).1

variable {setting : Setting} {world middle after : World} {call : Call} {id : CallId}
  {generation : Option Nat} {old new : Phase}

theorem Pursued.trans (first : Pursued setting id world middle)
    (second : Pursued setting id middle after) : Pursued setting id world after := by
  induction second with
  | here => exact first
  | further _ induction => exact induction.further

theorem Pursued.start (next : (world.advance setting id).1 = middle)
    (rest : Pursued setting id middle after) : Pursued setting id world after := by
  have first : Pursued setting id world (world.advance setting id).1 := .further .here
  exact (next ▸ first).trans rest

theorem Disciplined.pursue (disciplined : world.Disciplined)
    (pursued : Pursued setting id world after) : after.Disciplined := by
  induction pursued with
  | here => exact disciplined
  | further _ induction => exact induction.advance setting id

theorem setPhase_self (stood : world.standings[id]? = some old) :
    world.setPhase id old = world := by
  obtain ⟨bound, rfl⟩ := List.getElem?_eq_some_iff.mp stood
  simp [setPhase, List.set_getElem_self]

@[simp]
theorem conclude_setPhase (world : World) (id : CallId) (old : Phase) (generation : Option Nat)
    (result : Except GatewayError Claims) :
    (world.setPhase id old).conclude id generation result =
      world.conclude id generation result := by
  cases generation <;> simp [conclude, setPhase, List.set_set]

theorem stood_setPhase (inside : id < world.standings.length) (phase : Phase) :
    (world.setPhase id phase).standings[id]? = some phase := by
  simp [setPhase, inside]

theorem handed_fst (world : World) (token : String) (generation : Nat) :
    ((world.withdraw token generation).release token generation).1 =
      ((world.table.lane token).lock generation).waiting.head? := by
  simp [release, withdraw, setLane, Lane.handOver_fst]

theorem handed_snd (world : World) (token : String) (generation : Nat) :
    ((world.withdraw token generation).release token generation).2 =
      world.setLane token (((world.table.lane token).forget generation).handOver generation).2 := by
  simp [release, withdraw, setLane]

end World

namespace State

open World (Pursued)

variable {setting : Setting} {state : State} {call : Call} {id : CallId} {generation : Option Nat}

theorem finish_none (state : State) (id : CallId) (token : String)
    (result : Except GatewayError Claims) :
    state.finish id token none result = state.setPhase id (.done result state.now) := rfl

/-- Everything that leaving a lock changes: its lane, the place of the call and the agenda. -/
theorem finish_some (state : State) (id : CallId) (token : String) (generation : Nat)
    (result : Except GatewayError Claims) :
    state.finish id token (some generation) result =
      { state with
        toWorld := (state.toWorld.setLane token
          (((state.table.lane token).forget generation).handOver generation).2).setPhase id
            (.done result state.now)
        agenda := (((state.table.lane token).lock generation).waiting.head?).elim state.agenda
          fun next => Timed.enter ⟨state.now, next⟩ state.agenda } := by
  simp only [finish, World.handed_fst, World.handed_snd]
  cases ((state.table.lane token).lock generation).waiting.head? <;> rfl

@[simp]
theorem finish_standings (state : State) (id : CallId) (token : String) (generation : Option Nat)
    (result : Except GatewayError Claims) :
    (state.finish id token generation result).standings =
      state.standings.set id (.done result state.now) := by
  cases generation with
  | none => rfl
  | some held =>
      rw [finish_some]
      rfl

@[simp]
theorem finish_sent (state : State) (id : CallId) (token : String) (generation : Option Nat)
    (result : Except GatewayError Claims) :
    (state.finish id token generation result).sent = state.sent := by
  cases generation with
  | none => rfl
  | some held =>
      rw [finish_some]
      rfl

@[simp]
theorem finish_writes (state : State) (id : CallId) (token : String) (generation : Option Nat)
    (result : Except GatewayError Claims) :
    (state.finish id token generation result).writes = state.writes := by
  cases generation with
  | none => rfl
  | some held => rw [finish_some]

@[simp]
theorem receive_sent (setting : Setting) (state : State) (id : CallId) (call : Call)
    (generation : Option Nat) (reply : Reply) :
    (state.receive setting id call generation reply).sent = state.sent := by
  unfold receive
  split
  · rw [finish_sent]
  · rw [finish_sent]
  · rw [finish_sent]
    rfl

@[simp]
theorem receive_standings (setting : Setting) (state : State) (id : CallId) (call : Call)
    (generation : Option Nat) (reply : Reply) :
    (state.receive setting id call generation reply).standings =
      state.standings.set id
        (.done ((setting.introspector.judge reply).map Prod.fst) state.now) := by
  unfold receive
  split
  · rename_i judged
    simp [judged, Except.map]
  · rename_i judged
    simp [judged, Except.map]
  · rename_i judged
    rw [finish_standings]
    simp [judged, Except.map, World.keep]

theorem finish_pursued (called : state.calls[id]? = some call)
    (inside : id < state.standings.length) (result : Except GatewayError Claims) :
    Pursued setting id (state.toWorld.conclude id generation result)
      (state.finish id call.token generation result).toWorld := by
  cases generation with
  | none => exact .here
  | some generation =>
      let leaving := state.toWorld.setPhase id (.leaving generation result state.now)
      let releasing := (state.toWorld.withdraw call.token generation).setPhase id
        (.releasing generation result state.now)
      have stoodLeaving : leaving.standings[id]? = some (.leaving generation result state.now) :=
        World.stood_setPhase inside _
      have stoodReleasing :
          releasing.standings[id]? = some (.releasing generation result state.now) :=
        World.stood_setPhase inside _
      have withdrawn : (leaving.advance setting id).1 = releasing := by
        have here : leaving.calls[id]? = some call := called
        simp only [World.advance, here, stoodLeaving]
        simp [leaving, releasing, World.withdraw, World.setLane, World.setPhase, List.set_set]
      have released : (releasing.advance setting id).1 =
          (state.finish id call.token (some generation) result).toWorld := by
        have here : releasing.calls[id]? = some call := called
        simp only [World.advance, here, stoodReleasing, finish_some]
        simp [releasing, World.withdraw, World.release, World.setLane, World.setPhase,
          List.set_set]
      exact .start withdrawn (.start released .here)

theorem receive_pursued {reply : Reply} (called : state.calls[id]? = some call)
    (inside : id < state.standings.length) :
    Pursued setting id (state.toWorld.setPhase id (.calling generation reply))
      (state.receive setting id call generation reply).toWorld := by
  have here : (state.toWorld.setPhase id (.calling generation reply)).calls[id]? = some call :=
    called
  have stood := World.stood_setPhase inside (.calling generation reply)
  unfold receive
  split
  · rename_i error judged
    refine .start ?_ (finish_pursued called inside (.error error))
    simp only [World.advance, here, stood, World.receive, judged]
    simp
  · rename_i claims bytes judged
    refine .start ?_ (finish_pursued called inside (.ok claims))
    simp only [World.advance, here, stood, World.receive, judged]
    simp
  · rename_i claims bytes generation judged
    let write := state.toWorld.writeOf setting call claims bytes
    let kept : State := { state with
      toWorld := state.toWorld.keep write
      writes := state.writes ++ [write] }
    have calledStill : kept.calls[id]? = some call := called
    have finished : Pursued setting id (kept.toWorld.conclude id (some generation) (.ok claims))
        (kept.finish id call.token (some generation) (.ok claims)).toWorld :=
      finish_pursued calledStill inside (.ok claims)
    refine .start ?_ finished
    simp only [World.advance, here, stood, World.receive, judged]
    exact World.conclude_setPhase kept.toWorld id (.calling (some generation) reply) _ _

theorem ask_pursued (called : state.calls[id]? = some call)
    (inside : id < state.standings.length) :
    Pursued setting id (state.toWorld.setPhase id (.missed generation))
      (state.ask setting id call generation).toWorld := by
  have here : (state.toWorld.setPhase id (.missed generation)).calls[id]? = some call := called
  have stood := World.stood_setPhase inside (.missed generation)
  unfold ask
  split
  · rename_i error refused
    refine .start ?_ (finish_pursued called inside (.error error))
    simp only [World.advance, here, stood, World.ask, refused]
    simp
  · rename_i request made
    let sent := state.toWorld.sending call.token request
    let reply := setting.server state.sent sent
    let asked : State := { state with toWorld := state.toWorld.send sent }
    have moved : ((state.toWorld.setPhase id (.missed generation)).advance setting id).1 =
        asked.toWorld.setPhase id (.calling generation reply) := by
      simp only [World.advance, here, stood, World.ask, made]
      simp [asked, sent, reply, World.send, World.sending, World.setPhase, List.set_set]
    refine .start moved ?_
    dsimp only
    split
    · have received : Pursued setting id (asked.toWorld.setPhase id (.calling generation reply))
          (asked.receive setting id call generation reply).toWorld :=
        receive_pursued called inside
      exact received
    · exact .here

theorem enter_pursued {generation : Nat} (called : state.calls[id]? = some call)
    (stood : state.standings[id]? = some (.waiting generation))
    (holds : ((state.table.lane call.token).lock generation).holder = some id) :
    Pursued setting id state.toWorld (state.enter setting id call generation).toWorld := by
  have inside : id < state.standings.length := (List.getElem?_eq_some_iff.mp stood).1
  let read : State := { state with toWorld := (state.toWorld.look call.token).2 }
  unfold enter
  dsimp only
  split
  · rename_i claims found
    have calledStill : read.calls[id]? = some call := called
    have finished : Pursued setting id
        (read.toWorld.conclude id (some generation) (.ok claims))
        (read.finish id call.token (some generation) (.ok claims)).toWorld :=
      finish_pursued calledStill inside (.ok claims)
    refine .start ?_ finished
    simp [World.advance, called, stood, holds, World.consult, found, read]
  · rename_i absent
    have asked : Pursued setting id (read.toWorld.setPhase id (.missed (some generation)))
        (read.ask setting id call (some generation)).toWorld := ask_pursued called inside
    refine .start ?_ asked
    simp [World.advance, called, stood, holds, World.consult, absent, read]

theorem lineUp_toWorld (state : State) (id : CallId) (token : String) :
    (state.lineUp id token).2.2.toWorld =
      (state.toWorld.setLane token ((state.table.lane token).openLock.2.acquire
        (state.table.lane token).openLock.1 id).2).setPhase id
          (.waiting (state.table.lane token).openLock.1) := by
  simp [lineUp, World.openLock, World.joinLine, World.setLane]

theorem lineUp_taken (state : State) (id : CallId) (token : String) :
    (state.lineUp id token).1 =
      ((state.table.lane token).openLock.2.acquire (state.table.lane token).openLock.1 id).1 := by
  simp [lineUp, World.openLock, World.joinLine, World.setLane]

theorem lineUp_generation (state : State) (id : CallId) (token : String) :
    (state.lineUp id token).2.1 = (state.table.lane token).openLock.1 := rfl

theorem lineUp_lane (state : State) (id : CallId) (token : String) :
    (state.lineUp id token).2.2.table.lane token =
      ((state.table.lane token).openLock.2.acquire (state.table.lane token).openLock.1 id).2 := by
  rw [lineUp_toWorld]
  exact (LockTable.lane_setLane ..).trans (if_pos rfl)

theorem opened_known (disciplined : state.toWorld.Disciplined)
    (called : state.calls[id]? = some call) (stood : state.standings[id]? = some .starting) :
    (state.table.lane call.token).openLock.1 <
      (state.table.lane call.token).openLock.2.locks.length := by
  have opened := (disciplined.tended call.token).openLock (World.standing_eq called stood)
  exact opened.listed.known id _ _ (Function.update_self ..) rfl

/-- A call that gets in line makes two moves. -/
theorem lineUp_pursued (keeps : ¬setting.ttl ≤ 0) (called : state.calls[id]? = some call)
    (stood : state.standings[id]? = some .starting) :
    Pursued setting id state.toWorld (state.lineUp id call.token).2.2.toWorld := by
  have inside : id < state.standings.length := (List.getElem?_eq_some_iff.mp stood).1
  let opened := state.toWorld.openLock call.token
  let ready := opened.2.setPhase id (.opened opened.1)
  have here : ready.calls[id]? = some call := called
  have stoodReady : ready.standings[id]? = some (.opened opened.1) :=
    World.stood_setPhase inside _
  have first : (state.toWorld.advance setting id).1 = ready := by
    simp [World.advance, called, stood, keeps, opened, ready]
  refine .start first (.start ?_ .here)
  simp only [World.advance, here, stoodReady, lineUp]
  simp [ready, opened, World.joinLine, World.setLane, World.setPhase, List.set_set]

theorem lineUp_holds (disciplined : state.toWorld.Disciplined)
    (called : state.calls[id]? = some call) (stood : state.standings[id]? = some .starting)
    (taken : (state.lineUp id call.token).1 = true) :
    (((state.lineUp id call.token).2.2.table.lane call.token).lock
      (state.lineUp id call.token).2.1).holder = some id := by
  rw [lineUp_taken] at taken
  rw [lineUp_lane, lineUp_generation]
  exact Lane.acquire_taken (opened_known disciplined called stood) taken

theorem begin_pursued (disciplined : state.toWorld.Disciplined)
    (called : state.calls[id]? = some call) (stood : state.standings[id]? = some .starting) :
    Pursued setting id state.toWorld (state.begin setting id call).toWorld := by
  have inside : id < state.standings.length := (List.getElem?_eq_some_iff.mp stood).1
  unfold begin
  split
  · rename_i nothingKept
    refine .start ?_ (ask_pursued called inside)
    simp [World.advance, called, stood, nothingKept]
  · rename_i keeps
    have lined := lineUp_pursued keeps called stood
    dsimp only
    split
    · rename_i taken
      have stoodInLine : (state.lineUp id call.token).2.2.standings[id]? =
          some (.waiting (state.lineUp id call.token).2.1) := World.stood_setPhase inside _
      have holds := lineUp_holds disciplined called stood taken
      have calledStill : (state.lineUp id call.token).2.2.calls[id]? = some call := called
      exact lined.trans (enter_pursued calledStill stoodInLine holds)
    · exact lined

end State

end Gateway.Introspection
