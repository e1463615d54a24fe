import Gateway.Proofs.Introspection.Flight

/-!
Single flight. A round of calls for one token passes through the stages in their order, hence a good
reply to its first request is the answer to every call that starts while it is kept, and no second
request is sent before that time is over.
-/

namespace Gateway.Introspection

namespace World

variable {setting : Setting} {world after : World} {call : Call} {id : CallId}

theorem Pursued.sent_of_refused {error : GatewayError} (called : world.calls[id]? = some call)
    (refused : setting.introspector.prepare call.token = .error error)
    (pursued : Pursued setting id world after) : after.sent = world.sent := by
  induction pursued with
  | here => rfl
  | @further middle before induction =>
      have calledStill : middle.calls[id]? = some call := (before.confined called).calls ▸ called
      rw [← induction]
      have moved := advance_moved setting middle id
      generalize middle.advance setting id = next at moved ⊢
      cases moved with
      | ask other generation request here stood made =>
          obtain rfl := Option.some.inj (calledStill.symm.trans here)
          rw [Introspector.request_eq_error_iff.mpr refused] at made
          cases made
      | refuse other generation =>
          cases generation <;> rfl
      | fail other generation =>
          cases generation <;> rfl
      | _ => rfl

end World

namespace State

/-- What became of a good reply to the first request: it is in the air, or it was stored, and while
it is alive everybody gets it. -/
inductive Flown (setting : Setting) (token : String) (launched : List Call) (base : State)
    (first : Sent) (claims : Claims) (bytes : Bytes) (state : State) : Prop where
  | airborne (id : CallId) (generation : Nat)
      (airborne : Airborne token base first (setting.server base.sent first)
        (first.time + setting.introspector.duration (setting.server base.sent first)) id generation
        state) : Flown setting token launched base first claims bytes state
  | delivered (opener : Call) (write : Write) (more : List Write) (member : opener ∈ launched)
      (delivered : Delivered setting token first (setting.server base.sent first) claims bytes
        opener write)
      (writes : state.writes = write :: more)
      (kept : 0 < write.ttl → Landed token base first claims bytes write.expiresAt state ∨
        Expired base first claims write.expiresAt state) :
      Flown setting token launched base first claims bytes state

/-- How far a round of calls for one token has come. -/
inductive Stage (setting : Setting) (token : String) (launched : List Call) (base state : State) :
    Prop where
  | before (before : Before base state) : Stage setting token launched base state
  | refused (error : GatewayError)
      (refused : setting.introspector.prepare token = .error error)
      (sent : state.sent = base.sent) : Stage setting token launched base state
  | asked (first : Sent) (rest : List Sent) (since : base.now ≤ first.time)
      (sent : state.sent = base.sent ++ first :: rest)
      (flown : ∀ claims bytes,
        setting.introspector.Accepts (setting.server base.sent first) claims bytes →
        Flown setting token launched base first claims bytes state) :
      Stage setting token launched base state

variable {setting : Setting} {base state : State} {call : Call} {id : CallId} {token : String}
  {launched : List Call} {first : Sent} {claims : Claims} {bytes : Bytes}

theorem Before.stage (before : Before base state) (course : Course launched base state)
    (planned : Planned (some id) state) (disciplined : state.toWorld.Disciplined)
    (keeps : 0 < setting.ttl) (called : state.calls[id]? = some call)
    (stood : state.standings[id]? = some .starting) (own : base.calls.length ≤ id)
    (member : call ∈ launched) (mine : call.token = token)
    (absent : base.store.live? base.now (storeKey token) = none) :
    Stage setting token launched base (state.begin setting id call) := by
  subst mine
  cases made : setting.introspector.request call.context call.token with
  | error error =>
      have pursued : World.Pursued setting id state.toWorld
          (state.begin setting id call).toWorld := begin_pursued disciplined called stood
      have refused := Introspector.request_eq_error_iff.mp made
      exact .refused error refused ((pursued.sent_of_refused called refused).trans before.sent)
  | ok request =>
      obtain ⟨sent, flown⟩ :=
        before.begin course planned disciplined keeps called stood own absent made
      refine .asked _ [] before.since sent ?_
      intro claims bytes accepted
      rcases flown with ⟨generation, airborne⟩ | stored
      · exact .airborne id generation airborne
      · obtain ⟨write, writes, delivered, landed⟩ := stored claims bytes accepted
        exact .delivered call write [] member delivered writes fun kept => .inl (landed kept)

theorem Course.mine (course : Course launched base state)
    (only : ∀ call ∈ launched, call.token = token) (own : base.calls.length ≤ id)
    (called : state.calls[id]? = some call) : call.token = token := by
  rw [course.calls, List.getElem?_append_right own] at called
  exact only call (List.mem_of_getElem? called)

/-- The next event while the reply is in the air: it arrives and is good, or another call starts. -/
theorem Airborne.turn {event : Timed CallId} {rest : List (Timed CallId)} {opener : CallId}
    {generation : Nat}
    (airborne : Airborne token base first (setting.server base.sent first)
      (first.time + setting.introspector.duration (setting.server base.sent first)) opener
      generation state)
    (scheduled : state.Scheduled) (course : Course launched base state)
    (due : state.agenda = event :: rest) (keeps : 0 < setting.ttl)
    (only : ∀ call ∈ launched, call.token = token)
    (accepted : setting.introspector.Accepts (setting.server base.sent first) claims bytes) :
    Flown setting token launched base first claims bytes
      ((state.turnTo event rest).resume setting event.item) := by
  obtain ⟨disciplined, planned, ready⟩ := scheduled.turnTo due
  have courseNow := course.turnTo event rest
  have airborneNow := airborne.turnTo due
  rcases airborne.agenda event (due ▸ List.mem_cons_self) with here | starts
  · subst here
    obtain ⟨own, call, member, called⟩ := courseNow.launched_of_ready ready
    have mine : call.token = token := courseNow.mine only own called
    have landing := airborneNow.landing planned
    obtain ⟨writes, landed⟩ := landing.receive planned accepted call generation
    unfold State.resume
    simp only [called, airborneNow.stood]
    refine .delivered call _ [] member ⟨congrArg storeKey mine, rfl, rfl, rfl⟩ writes ?_
    intro positive
    rw [← mine]
    exact .inl (landed positive)
  · obtain ⟨own, _⟩ := courseNow.launched_of_ready ready
    obtain ⟨starting, calledHere, stood, _⟩ := starts
    have calledNow : (state.turnTo event rest).calls[event.item]? = some starting := calledHere
    have stoodNow : (state.turnTo event rest).standings[event.item]? = some .starting := stood
    have inLine := airborneNow.begin keeps planned disciplined stoodNow
      (courseNow.mine only own calledNow)
      (fun call called => courseNow.mine only airborne.own called)
    unfold State.resume
    simp only [calledNow, stoodNow]
    exact .airborne opener generation inLine

theorem Flown.turn {event : Timed CallId} {rest : List (Timed CallId)}
    (flown : Flown setting token launched base first claims bytes state)
    (scheduled : state.Scheduled) (course : Course launched base state)
    (due : state.agenda = event :: rest) (keeps : 0 < setting.ttl)
    (only : ∀ call ∈ launched, call.token = token)
    (accepted : setting.introspector.Accepts (setting.server base.sent first) claims bytes) :
    Flown setting token launched base first claims bytes
      ((state.turnTo event rest).resume setting event.item) := by
  cases flown with
  | airborne opener generation airborne =>
      exact airborne.turn scheduled course due keeps only accepted
  | delivered opener write more known delivered writes kept =>
      obtain ⟨disciplined, planned, ready⟩ := scheduled.turnTo due
      have courseNow := course.turnTo event rest
      obtain ⟨own, call, member, called⟩ := courseNow.launched_of_ready ready
      obtain ⟨_, ⟨added, written, _⟩, _⟩ := Extends.resume disciplined setting called
      have writesNow : (state.turnTo event rest).writes = write :: more := writes
      refine .delivered opener write (more ++ added) known delivered ?_ ?_
      · rw [written, writesNow]
        rfl
      · intro positive
        rcases kept positive with landed | expired
        · by_cases early : event.time < write.expiresAt
          · exact .inl ((landed.turnTo due early).resume keeps accepted.decodes planned disciplined
              ready own fun call called => courseNow.mine only own called)
          · have expired := landed.expire scheduled due (Nat.le_of_not_lt early)
            exact .inr (expired.resume setting disciplined ready)
        · have later : state.now ≤ event.time :=
            scheduled.planned.ahead event (due ▸ List.mem_cons_self)
          exact .inr ((expired.turnTo later).resume setting disciplined ready)

/-- Every event leaves the round in some stage. -/
theorem Stage.step (stage : Stage setting token launched base state)
    (scheduled : state.Scheduled) (course : Course launched base state) (keeps : 0 < setting.ttl)
    (only : ∀ call ∈ launched, call.token = token)
    (absent : base.store.live? base.now (storeKey token) = none) :
    Stage setting token launched base (state.step setting) := by
  unfold State.step
  split
  · exact stage
  rename_i event rest due
  obtain ⟨disciplined, planned, ready⟩ := scheduled.turnTo due
  have courseNow := course.turnTo event rest
  obtain ⟨own, call, member, called⟩ := courseNow.launched_of_ready ready
  have later : state.now ≤ event.time :=
    scheduled.planned.ahead event (due ▸ List.mem_cons_self)
  have mine := courseNow.mine only own called
  have pursued := resume_pursued setting disciplined ready
  cases stage with
  | before before =>
      have beforeNow := before.turnTo due later
      obtain ⟨starting, calledHere, stood, _⟩ :=
        before.agenda event (due ▸ List.mem_cons_self)
      obtain rfl := Option.some.inj (called.symm.trans calledHere)
      have stoodNow : (state.turnTo event rest).standings[event.item]? = some .starting := stood
      unfold State.resume
      simp only [called, stoodNow]
      exact beforeNow.stage courseNow planned disciplined keeps called stoodNow own member mine
        absent
  | refused error refused sent =>
      subst mine
      exact .refused error refused ((pursued.sent_of_refused called refused).trans sent)
  | asked first others since sent flown =>
      obtain ⟨more, sentMore, _⟩ := (pursued.confined called).sent
      refine .asked first (others ++ more) since ?_ ?_
      · rw [sentMore]
        have sentNow : (state.turnTo event rest).sent = base.sent ++ first :: others := sent
        simp [sentNow]
      · intro claims bytes accepted
        exact (flown claims bytes accepted).turn scheduled course due keeps only accepted

theorem Expired.elim_at_once {reply : Reply} {opener : Call} {write : Write}
    (expired : Expired base first claims write.expiresAt state)
    (delivered : Delivered setting token first reply claims bytes opener write)
    (positive : 0 < write.ttl) (since : base.now ≤ first.time) (atOnce : state.now = base.now) :
    False := by
  have kept := delivered.time_lt positive
  have late := expired.late
  omega

theorem Flown.begin (flown : Flown setting token launched base first claims bytes state)
    (scheduled : state.Scheduled) (course : Course launched base state) (keeps : 0 < setting.ttl)
    (only : ∀ call ∈ launched, call.token = token) (mine : call.token = token)
    (decodes : Claims.ofBytes? bytes = some claims) (since : base.now ≤ first.time)
    (atOnce : state.now = base.now) :
    Flown setting token (launched ++ [call]) base first claims bytes
      ((state.enroll call).begin setting state.calls.length call) := by
  obtain ⟨disciplined, planned⟩ := scheduled.enroll call
  have called := enroll_called state call
  have stood := enroll_stood scheduled.disciplined call
  cases flown with
  | airborne opener generation airborne =>
      have bound : opener < state.calls.length := by
        rw [scheduled.disciplined.aligned]
        exact (List.getElem?_eq_some_iff.mp airborne.stood).1
      have calledOpener : ∀ calling, (state.enroll call).calls[opener]? = some calling →
          calling.token = token := by
        intro calling here
        have before : state.calls[opener]? = some calling :=
          (List.getElem?_append_left bound).symm.trans here
        exact course.mine only airborne.own before
      exact .airborne opener generation ((airborne.enroll call).begin keeps planned disciplined
        stood mine calledOpener)
  | delivered opener write more known delivered writes kept =>
      obtain ⟨_, ⟨added, written, _⟩, _⟩ := Extends.begin disciplined setting called stood
      have writesNow : (state.enroll call).writes = write :: more := writes
      refine .delivered opener write (more ++ added) (List.mem_append_left _ known) delivered ?_ ?_
      · rw [written, writesNow]
        rfl
      · intro positive
        rcases kept positive with landed | expired
        · have enrolled := landed.enroll call
          exact .inl (enrolled.begin keeps decodes planned disciplined called stood mine)
        · exact (expired.elim_at_once delivered positive since atOnce).elim

theorem Flown.schedule {time : Nat}
    (flown : Flown setting token launched base first claims bytes state)
    (starts : (state.enroll call).StartsAt ⟨time, id⟩) (since : base.now ≤ first.time)
    (atOnce : state.now = base.now) :
    Flown setting token (launched ++ [call]) base first claims bytes
      ((state.enroll call).schedule time id) := by
  cases flown with
  | airborne opener generation airborne =>
      exact .airborne opener generation ((airborne.enroll call).schedule starts)
  | delivered opener write more known delivered writes kept =>
      refine .delivered opener write more (List.mem_append_left _ known) delivered writes ?_
      intro positive
      rcases kept positive with landed | expired
      · exact .inl ((landed.enroll call).schedule starts)
      · exact (expired.elim_at_once delivered positive since atOnce).elim

/-- A call that arrives leaves the round in some stage. -/
theorem Stage.launch (stage : Stage setting token launched base state)
    (scheduled : state.Scheduled) (course : Course launched base state) (keeps : 0 < setting.ttl)
    (only : ∀ call ∈ launched, call.token = token) (mine : call.token = token)
    (absent : base.store.live? base.now (storeKey token) = none) (atOnce : state.now = base.now) :
    Stage setting token (launched ++ [call]) base (state.launch setting call) ∧
      (state.launch setting call).now = base.now := by
  obtain ⟨disciplined, planned⟩ := scheduled.enroll call
  have called := enroll_called state call
  have stood := enroll_stood scheduled.disciplined call
  have courseNow := course.enroll scheduled.disciplined.aligned call
  have member : call ∈ launched ++ [call] := by simp
  have own : base.calls.length ≤ state.calls.length := by simp [course.calls]
  rw [launch_eq]
  split
  · have pursued := scheduled.begin_pursued setting call
    have confined := pursued.confined called
    refine ⟨?_, confined.now.trans atOnce⟩
    cases stage with
    | before before =>
        exact (before.enroll call).stage courseNow planned disciplined keeps called stood own member
          mine absent
    | refused error refused sent =>
        subst mine
        exact .refused error refused ((pursued.sent_of_refused called refused).trans sent)
    | asked first others since sent flown =>
        obtain ⟨more, sentMore, _⟩ := confined.sent
        refine .asked first (others ++ more) since ?_ ?_
        · have sentNow : (state.enroll call).sent = base.sent ++ first :: others := sent
          rw [sentMore, sentNow]
          simp
        · intro claims bytes accepted
          exact (flown claims bytes accepted).begin scheduled course keeps only mine
            accepted.decodes since atOnce
  · have starts : (state.enroll call).StartsAt ⟨call.start, state.calls.length⟩ :=
      ⟨call, called, stood, rfl⟩
    refine ⟨?_, atOnce⟩
    cases stage with
    | before before => exact .before ((before.enroll call).schedule starts)
    | refused error refused sent => exact .refused error refused sent
    | asked first others since sent flown =>
        refine .asked first others since sent ?_
        intro claims bytes accepted
        exact (flown claims bytes accepted).schedule starts since atOnce

theorem launches_stage {calls : List Call} (stage : Stage setting token launched base state)
    (scheduled : state.Scheduled) (course : Course launched base state) (keeps : 0 < setting.ttl)
    (only : ∀ call ∈ launched ++ calls, call.token = token)
    (absent : base.store.live? base.now (storeKey token) = none) (atOnce : state.now = base.now) :
    Stage setting token (launched ++ calls) base (calls.foldl (State.launch setting) state) := by
  induction calls generalizing state launched with
  | nil => simpa using stage
  | cons call calls induction =>
      have courseNext := course.launch scheduled setting call
      obtain ⟨stageNext, atOnceNext⟩ := stage.launch scheduled course keeps
        (fun other member => only other (List.mem_append_left _ member)) (only call (by simp))
        absent atOnce
      have rest := induction stageNext (scheduled.launch setting call) courseNext
        (by simpa using only) atOnceNext
      simpa using rest

theorem Stage.run (stage : Stage setting token launched base state)
    (scheduled : state.Scheduled) (course : Course launched base state) (keeps : 0 < setting.ttl)
    (only : ∀ call ∈ launched, call.token = token)
    (absent : base.store.live? base.now (storeKey token) = none) (count : Nat) :
    Stage setting token launched base (state.run setting count) := by
  induction count generalizing state with
  | zero => exact stage
  | succ count induction =>
      have stageNext := stage.step scheduled course keeps only absent
      exact induction stageNext (scheduled.step setting) (course.step scheduled setting)

/-- A round of calls for one token that is not in the store ends in one of the stages. -/
theorem lookUp_stage {calls : List Call} (quiet : state.toWorld.Quiet) (keeps : 0 < setting.ttl)
    (only : ∀ call ∈ calls, call.token = token)
    (absent : state.store.live? state.now (storeKey token) = none) :
    Stage setting token calls state.prepare (state.lookUp setting calls) := by
  have prepared := (Quiet.prepare quiet).1
  have course := Quiet.course quiet
  have before : Before state.prepare state.prepare := by
    refine ⟨rfl, rfl, rfl, Nat.le_refl _, ?_, by simp [State.prepare]⟩
    intro id phase own place
    have outside : state.standings.length ≤ id := quiet.aligned ▸ own
    have absentPlace : state.standings[id]? = some phase := place
    rw [List.getElem?_eq_none outside] at absentPlace
    cases absentPlace
  have stage : Stage setting token [] state.prepare state.prepare := .before before
  have stageLaunched := launches_stage stage prepared course keeps (by simpa using only) absent rfl
  exact stageLaunched.run (launches_scheduled prepared setting calls).1
    (course.launches prepared setting calls) keeps only absent _

/-- If no call is in progress while the answer is alive, all calls have got it. -/
theorem Landed.answers {limit place : Nat}
    (landed : Landed token base first claims bytes limit state)
    (course : Course launched base state) (quiet : state.toWorld.Quiet)
    (here : launched[place]? = some call) :
    ∃ finish, state.phases[place]? = some (.done (.ok claims) finish) := by
  have called := course.called here
  have bound : base.calls.length + place < state.standings.length := by
    rw [← quiet.aligned]
    exact (List.getElem?_eq_some_iff.mp called).1
  have stood := List.getElem?_eq_getElem bound
  obtain ⟨result, finish, finished⟩ := quiet.done _ (List.mem_of_getElem? stood)
  rw [course.phase_eq]
  refine ⟨finish, stood.trans (congrArg some ?_)⟩
  rcases landed.places _ _ (Nat.le_add_right _ _) stood with
    start | ⟨generation, waits⟩ | ⟨time, answered⟩
  · rw [finished] at start
    cases start
  · rw [finished] at waits
    cases waits
  · rw [finished] at answered
    obtain ⟨rfl, rfl⟩ := Phase.done.inj answered
    exact finished

/-- Calls for a token that is not in the store share one request: if its reply is good and kept for
some time, no other request is sent before that time is over, and every call that started earlier
gets the answer of that reply. -/
theorem single_flight (setting : Setting) (state : State) (token : String) (calls : List Call)
    (first : Sent) (others : List Sent) (claims : Claims) (bytes : Bytes)
    (keeps : 1 ≤ setting.ttl) (quiet : state.toWorld.Quiet)
    (absent : state.store.live? state.now (storeKey token) = none)
    (only : ∀ call ∈ calls, call.token = token)
    (asked : (state.lookUp setting calls).sent = state.sent ++ first :: others)
    (accepted : setting.introspector.Accepts (setting.server state.sent first) claims bytes) :
    ∃ opener ∈ calls, ∃ write more, (state.lookUp setting calls).writes = write :: more ∧
      Delivered setting token first (setting.server state.sent first) claims bytes opener write ∧
      (0 < write.ttl → (∀ other ∈ others, write.expiresAt ≤ other.time) ∧
        ∀ (place : Nat) (call : Call), calls[place]? = some call → call.start < write.expiresAt →
          ∃ finish, (state.lookUp setting calls).phases[place]? =
            some (.done (.ok claims) finish)) := by
  have course := lookUp_course quiet setting calls
  have stage := lookUp_stage quiet keeps only absent
  obtain ⟨_, quietAfter⟩ := lookUp_quiet quiet setting calls
  have notAsked : (state.lookUp setting calls).sent ≠ state.prepare.sent := by
    rw [asked]
    simp [State.prepare]
  cases stage with
  | before before => exact absurd before.sent notAsked
  | refused error refused sent => exact absurd sent notAsked
  | asked first' others' since sent flown =>
      obtain ⟨rfl, rfl⟩ : first = first' ∧ others = others' := by
        have same := asked.symm.trans sent
        simpa [State.prepare] using same
      cases flown claims bytes accepted with
      | airborne id generation airborne =>
          obtain ⟨result, finish, clash⟩ :=
            quietAfter.done _ (List.mem_of_getElem? airborne.stood)
          cases clash
      | delivered opener write more member delivered writes kept =>
          refine ⟨opener, member, write, more, writes, delivered, ?_⟩
          intro positive
          rcases kept positive with landed | expired
          · have single : others = [] := by
              have same := asked.symm.trans landed.sent
              simpa [State.prepare] using same
            exact ⟨by simp [single], fun place call here _ => landed.answers course quietAfter here⟩
          · obtain ⟨⟨rest, sentAll, late⟩, _, served⟩ := expired
            have same : others = rest := by
              have equal := asked.symm.trans sentAll
              simpa [State.prepare] using equal
            refine ⟨same ▸ late, ?_⟩
            intro place call here started
            rw [course.phase_eq]
            exact served _ call (Nat.le_add_right _ _) (course.called here) started

def sharing : Setting where
  introspector := .keepsAMinute
  server _ _ := Introspector.blankReply 10
  wall _ := 0

def twoCalls : List Call := [.under "r" "t" 0, .under "s" "t" 5]

theorem single_flight_of_two :
    ∃ finish, (State.lookUp sharing {} twoCalls).phases[1]? =
      some (.done (.ok ⟨[]⟩) finish) := by
  let first := (State.lookUp sharing {} twoCalls).sent.headD default
  have keeps : 1 ≤ sharing.ttl := by decide +kernel
  have only : ∀ call ∈ twoCalls, call.token = "t" := by simp [twoCalls, Call.under]
  have asked : (State.lookUp sharing {} twoCalls).sent = [] ++ first :: [] := by decide +kernel
  obtain ⟨opener, member, write, more, _, delivered, kept⟩ :=
    single_flight sharing {} "t" twoCalls first [] ⟨[]⟩ [0x7b, 0x7d] keeps
      (World.fresh_quiet .empty) rfl only asked (Introspector.accepts_blankReply 10)
  have ttl : write.ttl = 60 := by
    have known : opener.expiry = 0 ∧ opener.notBefore = 0 := by
      rcases List.mem_pair.mp member with rfl | rfl <;> exact ⟨rfl, rfl⟩
    have minute : cacheTtl sharing.ttl ⟨[]⟩ 0 0 0 = 60 := by decide +kernel
    rw [delivered.ttl, known.1, known.2]
    exact minute
  apply (kept (by omega)).2 1 _ rfl
  simp [Write.expiresAt, ttl, Call.under]

end State

end Gateway.Introspection
