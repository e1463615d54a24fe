import Gateway.Proofs.Introspection.Scheduling
import Mathlib.Tactic.ByContra

/-!
Rounds of calls. Every event brings its call closer to its end, so that a round that begins with no
call in progress ends with all calls done, every lock free and none in the table.
-/

namespace Gateway.Introspection

namespace Phase

def weight : Phase → Nat
  | .starting => 3
  | .waiting _ => 2
  | .calling _ _ => 1
  | _ => 0

def load : List Phase → Nat
  | [] => 0
  | phase :: rest => phase.weight + load rest

theorem load_append (first second : List Phase) :
    load (first ++ second) = load first + load second := by
  induction first with
  | nil => simp [load]
  | cons phase rest induction => simp [load, induction, Nat.add_assoc]

theorem load_set (standings : List Phase) {id : CallId} {old : Phase} (new : Phase)
    (stood : standings[id]? = some old) :
    load (standings.set id new) + old.weight = load standings + new.weight := by
  induction standings generalizing id with
  | nil => simp at stood
  | cons first rest induction =>
      cases id with
      | zero =>
          obtain rfl : first = old := by simpa using stood
          simp only [List.set_cons_zero, load]
          omega
      | succ id =>
          have stoodLater : rest[id]? = some old := by simpa using stood
          have later := induction stoodLater
          simp only [List.set_cons_succ, load]
          omega

theorem load_eq_zero {standings : List Phase} (light : ∀ phase ∈ standings, phase.weight = 0) :
    load standings = 0 := by
  induction standings with
  | nil => rfl
  | cons phase rest induction =>
      have here := light phase List.mem_cons_self
      have later := induction fun other member => light other (List.mem_cons_of_mem phase member)
      rw [load, here, later]

end Phase

namespace World

/-- No call is in progress: all are done, every lock is free and none is in the table. -/
structure Quiet (world : World) : Prop where
  aligned : world.calls.length = world.standings.length
  done : ∀ phase ∈ world.standings, ∃ result finish, phase = .done result finish
  ordered : SortedMap.Ordered world.table
  free : ∀ token, (world.table.lane token).current = none ∧
    ∀ generation, (world.table.lane token).lock generation = {}

variable {world : World}

theorem done_of_standing {token : String} {id : CallId} {phase : Phase}
    (done : ∀ phase ∈ world.standings, ∃ result finish, phase = .done result finish)
    (stands : world.standing token id = some phase) :
    ∃ result finish, phase = .done result finish := by
  obtain ⟨_, _, _, stood⟩ := exists_call_of_standing stands
  exact done phase (List.mem_of_getElem? stood)

theorem Quiet.disciplined (quiet : world.Quiet) : world.Disciplined where
  aligned := quiet.aligned
  ordered := quiet.ordered
  tended token := by
    have noHold : ∀ id phase, world.standing token id = some phase →
        phase.known? = none ∧ phase.queued? = none := by
      intro id phase stands
      obtain ⟨result, finish, rfl⟩ := done_of_standing quiet.done stands
      exact ⟨rfl, rfl⟩
    obtain ⟨absent, free⟩ := quiet.free token
    refine ⟨?_, ?_⟩
    · intro generation
      rw [free generation]
      refine ⟨by simp, ?_, ?_, by simp, .nil, by simp, by simp⟩
      · intro id phase stands held
        have known := Phase.known_of_held held
        simp [(noHold id phase stands).1] at known
      · intro id phase stands queued
        simp [(noHold id phase stands).2] at queued
    · refine ⟨?_, by simp [absent], by simp [absent]⟩
      intro id phase generation stands known
      simp [(noHold id phase stands).1] at known

theorem fresh_quiet (store : Store) : ({ store } : World).Quiet := by
  refine ⟨rfl, by simp, .nil, ?_⟩
  intro token
  refine ⟨rfl, ?_⟩
  intro generation
  simp [LockTable.lane, SortedMap.get?, Lane.lock]

/-- Once all calls are done, no lock is held and none is in the table. -/
theorem Disciplined.quiet (disciplined : world.Disciplined)
    (done : ∀ phase ∈ world.standings, ∃ result finish, phase = .done result finish) :
    world.Quiet where
  aligned := disciplined.aligned
  done := done
  ordered := disciplined.ordered
  free token := by
    constructor
    · cases present : (world.table.lane token).current with
      | none => rfl
      | some other =>
          obtain ⟨id, phase, stands, pledged⟩ :=
            (disciplined.tended token).listed.pledged other present
          obtain ⟨result, finish, rfl⟩ := done_of_standing done stands
          cases pledged
    · intro generation
      have queued := (disciplined.tended token).queued generation
      have free : ((world.table.lane token).lock generation).holder = none := by
        by_contra taken
        obtain ⟨id, holds⟩ := Option.ne_none_iff_exists'.mp taken
        obtain ⟨phase, stands, engaged⟩ := queued.holder_stands id holds
        obtain ⟨result, finish, rfl⟩ := done_of_standing done stands
        simp [Phase.queued?, Phase.held?] at engaged
      exact Lock.ext free (queued.line_held free)

end World

namespace State

variable {setting : Setting} {state after : State} {call : Call} {id : CallId}

/-- A call has come to a place from which at most so many events are left to it. -/
def Nearer (bound : Nat) (id : CallId) (state after : State) : Prop :=
  ∃ phase, after.standings = state.standings.set id phase ∧ phase.weight ≤ bound

theorem ask_nearer (setting : Setting) (state : State) (id : CallId) (call : Call)
    (generation : Option Nat) : Nearer 1 id state (state.ask setting id call generation) := by
  unfold ask
  split
  · exact ⟨_, finish_standings .., Nat.zero_le 1⟩
  · dsimp only
    split
    · exact ⟨_, receive_standings .., Nat.zero_le 1⟩
    · exact ⟨_, rfl, Nat.le_refl 1⟩

theorem enter_nearer (setting : Setting) (state : State) (id : CallId) (call : Call)
    (generation : Nat) : Nearer 1 id state (state.enter setting id call generation) := by
  unfold enter
  dsimp only
  split
  · exact ⟨_, finish_standings .., Nat.zero_le 1⟩
  · exact ask_nearer ..

theorem begin_nearer (setting : Setting) (state : State) (id : CallId) (call : Call) :
    Nearer 2 id state (state.begin setting id call) := by
  unfold begin
  split
  · obtain ⟨phase, stands, light⟩ := ask_nearer setting state id call none
    exact ⟨phase, stands, light.trans (Nat.le_succ 1)⟩
  · dsimp only
    split
    · obtain ⟨phase, stands, light⟩ := enter_nearer setting (state.lineUp id call.token).2.2 id call
        (state.lineUp id call.token).2.1
      refine ⟨phase, ?_, light.trans (Nat.le_succ 1)⟩
      rw [stands, lineUp_toWorld]
      simp [World.setPhase, World.setLane, List.set_set]
    · exact ⟨_, rfl, Nat.le_refl 2⟩

def load (state : State) : Nat := Phase.load state.standings

theorem Nearer.load {bound : Nat} {old : Phase} (nearer : Nearer bound id state after)
    (stood : state.standings[id]? = some old) : after.load + old.weight ≤ state.load + bound := by
  obtain ⟨phase, stands, light⟩ := nearer
  have moved := Phase.load_set state.standings phase stood
  unfold State.load
  rw [stands]
  omega

/-- Every event brings some call closer to its end. -/
theorem resume_load (setting : Setting) (ready : state.Ready id) :
    (state.resume setting id).load < state.load := by
  obtain ⟨call, phase, called, stood, able⟩ := ready
  unfold resume
  cases phase with
  | starting =>
      simp only [called, stood]
      have lighter := (begin_nearer setting state id call).load stood
      simp only [Phase.weight] at lighter
      omega
  | waiting generation =>
      simp only [called, stood]
      have lighter := (enter_nearer setting state id call generation).load stood
      simp only [Phase.weight] at lighter
      omega
  | calling generation reply =>
      simp only [called, stood]
      have nearer : Nearer 0 id state (state.receive setting id call generation reply) :=
        ⟨_, receive_standings .., Nat.le_refl 0⟩
      have lighter := nearer.load stood
      simp only [Phase.weight] at lighter
      omega
  | _ => exact able.elim

theorem step_load (setting : Setting) (scheduled : state.Scheduled)
    (due : state.agenda ≠ []) :
    (state.step setting).load < state.load := by
  unfold State.step
  split
  · rename_i nothing
    exact absurd nothing due
  · rename_i event rest due
    obtain ⟨_, _, ready⟩ := scheduled.turnTo due
    have lighter := resume_load setting ready
    exact lighter

theorem run_of_settled (settled : state.agenda = []) (count : Nat) :
    state.run setting count = state := by
  induction count with
  | zero => rfl
  | succ count induction =>
      have unmoved : state.step setting = state := by simp [State.step, settled]
      rw [State.run, unmoved, induction]

theorem run_run (setting : Setting) (state : State) (first second : Nat) :
    (state.run setting first).run setting second = state.run setting (first + second) := by
  induction first generalizing state with
  | zero => rw [Nat.zero_add]; rfl
  | succ first induction =>
      rw [Nat.succ_add]
      exact induction (state.step setting)

/-- However many events are let take place, the end of a round is one. -/
theorem settled_unique {first second : Nat} (one : (state.run setting first).agenda = [])
    (other : (state.run setting second).agenda = []) :
    state.run setting first = state.run setting second := by
  rcases Nat.le_total first second with before | behind
  · have reached := run_run setting state first (second - first)
    rw [run_of_settled one, Nat.add_sub_cancel' before] at reached
    exact reached
  · have reached := run_run setting state second (first - second)
    rw [run_of_settled other, Nat.add_sub_cancel' behind] at reached
    exact reached.symm

/-- With an event for each step that the calls may still need, the agenda is worked off. -/
theorem run_settles (scheduled : state.Scheduled) (setting : Setting) (count : Nat)
    (enough : state.load ≤ count) : (state.run setting count).agenda = [] := by
  induction count generalizing state with
  | zero =>
      by_contra due
      have lighter := step_load setting scheduled due
      omega
  | succ count induction =>
      by_cases settled : state.agenda = []
      · rw [run_of_settled settled, settled]
      · have lighter := step_load setting scheduled settled
        exact induction (scheduled.step setting) (by omega)

theorem launch_eq (setting : Setting) (state : State) (call : Call) :
    state.launch setting call =
      if call.start ≤ state.now then (state.enroll call).begin setting state.calls.length call
      else (state.enroll call).schedule call.start state.calls.length := rfl

theorem enroll_called (state : State) (call : Call) :
    (state.enroll call).calls[state.calls.length]? = some call := by
  simp [enroll, World.arrive]

theorem enroll_stood (disciplined : state.toWorld.Disciplined) (call : Call) :
    (state.enroll call).standings[state.calls.length]? = some .starting := by
  simp [enroll, World.arrive, disciplined.aligned]

theorem resume_starting (setting : Setting) (called : state.calls[id]? = some call)
    (stood : state.standings[id]? = some .starting) :
    state.resume setting id = state.begin setting id call := by
  simp only [resume, called, stood]

theorem resume_enrolled (disciplined : state.toWorld.Disciplined) {call : Call} :
    (state.enroll call).resume setting state.calls.length =
      (state.enroll call).begin setting state.calls.length call :=
  resume_starting setting (enroll_called state call) (enroll_stood disciplined call)

theorem Scheduled.enroll (scheduled : state.Scheduled) (call : Call) :
    (state.enroll call).toWorld.Disciplined ∧
      Planned (some state.calls.length) (state.enroll call) := by
  obtain ⟨disciplined, planned⟩ := scheduled
  have aligned := disciplined.aligned
  refine ⟨disciplined.arrive call, planned.transfer rfl rfl ?_ ?_⟩
  · intro other
    rcases Nat.lt_trichotomy other state.calls.length with before | last | behind
    · have unchanged : (state.enroll call).Ready other ↔ state.Ready other := by
        simp only [State.enroll, World.Ready, World.arrive, List.getElem?_append_left before,
          List.getElem?_append_left (aligned ▸ before)]
      simp [unchanged, before.ne']
    · subst last
      have absent : ¬state.Ready state.calls.length := by
        rintro ⟨_, _, called, _⟩
        simp at called
      simp [absent]
    · have absentBefore : ¬state.Ready other := by
        rintro ⟨_, _, called, _⟩
        rw [List.getElem?_eq_none (by omega)] at called
        cases called
      have absentAfter : ¬(state.enroll call).Ready other := by
        rintro ⟨_, _, called, _⟩
        rw [List.getElem?_eq_none (by simp [State.enroll, World.arrive]; omega)] at called
        cases called
      simp [absentBefore, absentAfter]
  · intro phase member
    rcases List.mem_append.mp member with old | new
    · exact planned.plain phase old
    · obtain rfl : phase = .starting := by simpa using new
      rfl

theorem Scheduled.begin_pursued (scheduled : state.Scheduled) (setting : Setting) (call : Call) :
    World.Pursued setting state.calls.length (state.enroll call).toWorld
      ((state.enroll call).begin setting state.calls.length call).toWorld :=
  State.begin_pursued (scheduled.enroll call).1 (enroll_called state call)
    (enroll_stood scheduled.disciplined call)

theorem Scheduled.launch (scheduled : state.Scheduled) (setting : Setting) (call : Call) :
    (state.launch setting call).Scheduled := by
  obtain ⟨disciplined, planned⟩ := scheduled.enroll call
  have called := enroll_called state call
  have stood := enroll_stood scheduled.disciplined call
  rw [launch_eq]
  split
  · have pursued := scheduled.begin_pursued setting call
    exact ⟨disciplined.pursue pursued, planned.begin disciplined called stood⟩
  · rename_i later
    have ready := (World.ready_iff called stood).mpr trivial
    exact ⟨disciplined, planned.schedule ready (Nat.le_of_not_le later)⟩

theorem Scheduled.launch_frame (scheduled : state.Scheduled) (setting : Setting) (call : Call) :
    (state.launch setting call).now = state.now ∧
      (state.launch setting call).calls = state.calls ++ [call] := by
  rw [launch_eq]
  split
  · have confined := (scheduled.begin_pursued setting call).confined (enroll_called state call)
    exact ⟨confined.now, confined.calls⟩
  · exact ⟨rfl, rfl⟩

theorem launch_load (disciplined : state.toWorld.Disciplined) (setting : Setting) (call : Call) :
    (state.launch setting call).load ≤ state.load + eventsPerCall := by
  have enrolled : (state.enroll call).load = state.load + eventsPerCall := by
    simp [load, enroll, World.arrive, eventsPerCall, Phase.load_append, Phase.load, Phase.weight]
  rw [launch_eq]
  split
  · have lighter := (begin_nearer setting (state.enroll call) state.calls.length call).load
      (enroll_stood disciplined call)
    simp only [Phase.weight] at lighter
    omega
  · exact enrolled.le

theorem launches_scheduled (scheduled : state.Scheduled) (setting : Setting) (calls : List Call) :
    (calls.foldl (launch setting) state).Scheduled ∧
      (calls.foldl (launch setting) state).load ≤ state.load + eventsPerCall * calls.length := by
  induction calls generalizing state with
  | nil => exact ⟨scheduled, Nat.le_refl _⟩
  | cons call calls induction =>
      obtain ⟨later, bounded⟩ := induction (scheduled.launch setting call)
      have first := launch_load scheduled.disciplined setting call
      refine ⟨later, ?_⟩
      simp only [List.foldl_cons, List.length_cons, Nat.mul_succ]
      omega

theorem Scheduled.quiet (scheduled : state.Scheduled) (settled : state.agenda = []) :
    state.toWorld.Quiet := by
  obtain ⟨disciplined, planned⟩ := scheduled
  apply disciplined.quiet
  have stuck : ∀ id, ¬state.Ready id := by
    intro id ready
    have named := (planned.named id).mpr ⟨ready, by simp⟩
    simp [settled] at named
  intro phase member
  obtain ⟨id, stood⟩ := List.mem_iff_getElem?.mp member
  have bound : id < state.calls.length := by
    rw [disciplined.aligned]
    exact (List.getElem?_eq_some_iff.mp stood).1
  have called := List.getElem?_eq_getElem bound
  have unable := stuck id
  rw [World.ready_iff called stood] at unable
  have plain := planned.plain phase member
  cases phase with
  | done result finish => exact ⟨result, finish, rfl⟩
  | starting => exact absurd trivial unable
  | calling => exact absurd trivial unable
  | waiting generation =>
      obtain ⟨holder, _, _, _, ready⟩ :=
        World.exists_ready_of_waiting disciplined planned.plain called stood
      exact absurd ready (stuck holder)
  | _ => cases plain

theorem Quiet.prepare (quiet : state.toWorld.Quiet) :
    state.prepare.Scheduled ∧ state.prepare.load = 0 := by
  have disciplined := quiet.disciplined
  have done := quiet.done
  refine ⟨⟨disciplined.congr rfl rfl rfl, ⟨.nil, by simp [State.prepare], .nil, ?_, ?_⟩⟩, ?_⟩
  · intro id
    have stuck : ¬state.Ready id := by
      rintro ⟨call, phase, called, stood, ready⟩
      obtain ⟨result, finish, rfl⟩ := done phase (List.mem_of_getElem? stood)
      exact ready
    simp [stuck, State.prepare]
  · intro phase member
    obtain ⟨result, finish, rfl⟩ := done phase member
    rfl
  · have weightless : ∀ phase ∈ state.prepare.standings, phase.weight = 0 := by
      intro phase member
      obtain ⟨result, finish, rfl⟩ := done phase member
      rfl
    exact Phase.load_eq_zero weightless

/-- A round of calls ends with its agenda worked off and no call in progress. -/
theorem lookUp_quiet (quiet : state.toWorld.Quiet) (setting : Setting) (calls : List Call) :
    (state.lookUp setting calls).agenda = [] ∧ (state.lookUp setting calls).toWorld.Quiet := by
  obtain ⟨prepared, unloaded⟩ := Quiet.prepare quiet
  obtain ⟨launched, bounded⟩ := launches_scheduled prepared setting calls
  rw [unloaded, Nat.zero_add] at bounded
  have settled := run_settles launched setting (eventsPerCall * calls.length) bounded
  exact ⟨settled, (launched.run setting _).quiet settled⟩

theorem sleep_quiet (quiet : state.toWorld.Quiet) (millis : Nat) :
    (state.sleep millis).toWorld.Quiet :=
  ⟨quiet.aligned, quiet.done, quiet.ordered, quiet.free⟩

/-- The calls that were launched in this round, after those of earlier rounds. -/
structure Course (launched : List Call) (base state : State) : Prop where
  calls : state.calls = base.calls ++ launched
  earlier : state.earlier = base.calls.length
  past : ∀ id phase, id < base.calls.length → state.standings[id]? = some phase →
    ∃ result finish, phase = .done result finish

namespace Course

variable {launched calls : List Call} {base : State} {event : Timed CallId}
  {rest : List (Timed CallId)} {token : String}

theorem launched_of_ready (course : Course launched base state) (ready : state.Ready id) :
    base.calls.length ≤ id ∧ ∃ call ∈ launched, state.calls[id]? = some call := by
  obtain ⟨call, phase, called, stood, able⟩ := ready
  have own : base.calls.length ≤ id := by
    by_contra before
    obtain ⟨result, finish, rfl⟩ := course.past id phase (by omega) stood
    exact able
  refine ⟨own, call, ?_, called⟩
  rw [course.calls, List.getElem?_append_right own] at called
  exact List.mem_of_getElem? called

theorem enroll (course : Course launched base state)
    (aligned : state.calls.length = state.standings.length) (call : Call) :
    Course (launched ++ [call]) base (state.enroll call) where
  calls := by simp [State.enroll, World.arrive, course.calls]
  earlier := course.earlier
  past id phase before place := by
    have old : id < state.standings.length := by
      rw [← aligned, course.calls, List.length_append]
      omega
    exact course.past id phase before ((List.getElem?_append_left old).symm.trans place)

theorem resume (course : Course launched base state) (setting : Setting)
    (disciplined : state.toWorld.Disciplined) (ready : state.Ready id) :
    Course launched base (state.resume setting id) := by
  obtain ⟨own, call, _, called⟩ := course.launched_of_ready ready
  have confined := (resume_pursued setting disciplined ready).confined called
  have added := Extends.resume disciplined setting called
  refine ⟨confined.calls.trans course.calls, added.earlier.trans course.earlier, ?_⟩
  intro other phase before place
  rw [confined.others other (Nat.ne_of_lt (Nat.lt_of_lt_of_le before own))] at place
  exact course.past other phase before place

theorem turnTo (course : Course launched base state) (event : Timed CallId)
    (rest : List (Timed CallId)) : Course launched base (state.turnTo event rest) :=
  ⟨course.calls, course.earlier, course.past⟩

theorem step (course : Course launched base state) (scheduled : state.Scheduled)
    (setting : Setting) : Course launched base (state.step setting) := by
  unfold State.step
  split
  · exact course
  · rename_i event rest due
    obtain ⟨disciplined, _, ready⟩ := scheduled.turnTo due
    exact (course.turnTo event rest).resume setting disciplined ready

theorem run (course : Course launched base state) (scheduled : state.Scheduled)
    (setting : Setting) (count : Nat) : Course launched base (state.run setting count) := by
  induction count generalizing state with
  | zero => exact course
  | succ count induction =>
      exact induction (course.step scheduled setting) (scheduled.step setting)

theorem launch (course : Course launched base state) (scheduled : state.Scheduled)
    (setting : Setting) (call : Call) :
    Course (launched ++ [call]) base (state.launch setting call) := by
  have enrolled := course.enroll scheduled.disciplined.aligned call
  rw [launch_eq]
  split
  · have ready := (World.ready_iff (enroll_called state call)
      (enroll_stood scheduled.disciplined call)).mpr trivial
    rw [← resume_enrolled scheduled.disciplined]
    exact enrolled.resume setting (scheduled.enroll call).1 ready
  · exact ⟨enrolled.calls, enrolled.earlier, enrolled.past⟩

theorem launches (course : Course launched base state) (scheduled : state.Scheduled)
    (setting : Setting) (calls : List Call) :
    Course (launched ++ calls) base (calls.foldl (State.launch setting) state) := by
  induction calls generalizing state launched with
  | nil => simpa using course
  | cons call calls induction =>
      have rest := induction (course.launch scheduled setting call)
        (scheduled.launch setting call)
      simpa using rest

theorem phase_eq (course : Course launched base state) (place : Nat) :
    state.phases[place]? = state.standings[base.calls.length + place]? := by
  rw [State.phases, course.earlier, List.getElem?_drop]

theorem round (course : Course launched base state) :
    state.calls.drop state.earlier = launched := by
  rw [course.calls, course.earlier, List.drop_left]

theorem phases_length (course : Course launched base state)
    (aligned : state.calls.length = state.standings.length) :
    state.phases.length = launched.length := by
  rw [State.phases, List.length_drop, ← aligned, ← List.length_drop, course.round]

theorem called {place : Nat} (course : Course launched base state)
    (called : launched[place]? = some call) :
    state.calls[base.calls.length + place]? = some call := by
  rw [course.calls, List.getElem?_append_right (by omega)]
  simpa using called

end Course

theorem Quiet.course (quiet : state.toWorld.Quiet) : Course [] state.prepare state.prepare := by
  refine ⟨by simp, rfl, ?_⟩
  intro id phase _ place
  exact quiet.done phase (List.mem_of_getElem? place)

theorem lookUp_course (quiet : state.toWorld.Quiet) (setting : Setting) (calls : List Call) :
    Course calls state.prepare (state.lookUp setting calls) := by
  have prepared := (Quiet.prepare quiet).1
  have launched := (Quiet.course quiet).launches prepared setting calls
  exact launched.run (launches_scheduled prepared setting calls).1 setting _

end State

end Gateway.Introspection
