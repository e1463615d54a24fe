import Gateway.Proofs.Introspection.Mirror
import Gateway.Proofs.Introspection.Rounds

/-!
Isolation. A round of calls for many tokens is mirrored by the round of one token's calls alone:
calls get other numbers there, events of other tokens have no counterpart, and everything else takes
place at the same times.
-/

namespace Gateway.Introspection

namespace State

/-- What the calls of a round for a token come to, and what was sent and written for it. -/
structure Account where
  outcomes : List (Call × Phase)
  sent : List Sent
  writes : List Write

def account (token : String) (state : State) : Account where
  outcomes := ((state.calls.drop state.earlier).zip state.phases).filter fun outcome =>
    outcome.1.token = token
  sent := state.sent.filter fun sent => sent.token = token
  writes := state.writes.filter fun write => write.key = storeKey token

/-- The state without earlier calls and without anything of other tokens. -/
def only (token : String) (state : State) : State where
  now := state.now
  store := ⟨state.store.entries.filter fun pair => pair.1 = storeKey token⟩
  table := state.table.filter fun pair => pair.1 = token
  sent := state.sent.filter fun sent => sent.token = token

def chosen (token : String) (next : Nat) (calls : List Call) (id : CallId) : Bool :=
  decide (next ≤ id) && calls[id - next]?.any fun call => call.token = token

/-- How many calls of a round for a token come before a call. -/
def rank (token : String) (next : Nat) (calls : List Call) (id : CallId) : CallId :=
  (calls.take (id - next)).countP fun call => call.token = token

variable {setting : Setting} {state whole part : State} {token : String} {mine : CallId → Bool}
  {place : CallId → CallId} {call : Call} {calls : List Call} {id : CallId}

theorem only_entry (token : String) (state : State) :
    (state.only token).store.entryAt? (storeKey token) =
      state.store.entryAt? (storeKey token) := by
  have filtered := SortedMap.get?_filter state.store.entries
    (fun key => decide (key = storeKey token)) (storeKey token)
  simpa [only, Store.entryAt?] using filtered

theorem only_lane (token other : String) (state : State) :
    (state.only token).table.lane other =
      if other = token then state.table.lane other else {} := by
  have filtered := SortedMap.get?_filter state.table (fun key => decide (key = token)) other
  simp only [only, LockTable.lane, filtered, decide_eq_true_eq]
  split <;> rfl

theorem only_quiet (quiet : state.toWorld.Quiet) (token : String) :
    (state.only token).toWorld.Quiet where
  aligned := rfl
  done phase member := by simp [only] at member
  ordered := List.Pairwise.filter _ quiet.ordered
  free other := by
    rw [only_lane]
    split
    · exact quiet.free other
    · refine ⟨rfl, ?_⟩
      intro generation
      simp [Lane.lock]

theorem countP_take_lt {first second : Nat} (here : calls[first]? = some call)
    (own : call.token = token) (before : first < second) :
    (calls.take first).countP (fun call => call.token = token) <
      (calls.take second).countP (fun call => call.token = token) := by
  have further : (calls.take (first + 1)).countP (fun call => call.token = token) =
      (calls.take first).countP (fun call => call.token = token) + 1 := by
    rw [List.take_add_one, here]
    simp [own]
  have bounded : (calls.take (first + 1)).countP (fun call => call.token = token) ≤
      (calls.take second).countP (fun call => call.token = token) :=
    (List.take_prefix_take_left before).sublist.countP_le
  omega

theorem chosen_eq_true {next : Nat} (own : chosen token next calls id = true) :
    next ≤ id ∧ ∃ call, calls[id - next]? = some call ∧ call.token = token := by
  simp only [chosen, Bool.and_eq_true, decide_eq_true_eq, Option.any_eq_true] at own
  exact own

theorem rank_distinct (token : String) (next : Nat) (calls : List Call) :
    Distinct (chosen token next calls) (rank token next calls) := by
  intro first second ownFirst ownSecond equal
  obtain ⟨afterFirst, callFirst, hereFirst, tokenFirst⟩ := chosen_eq_true ownFirst
  obtain ⟨afterSecond, callSecond, hereSecond, tokenSecond⟩ := chosen_eq_true ownSecond
  rcases Nat.lt_trichotomy (first - next) (second - next) with before | same | behind
  · exact absurd equal (countP_take_lt hereFirst tokenFirst before).ne
  · calc
      first = first - next + next := (Nat.sub_add_cancel afterFirst).symm
      _ = second - next + next := by rw [same]
      _ = second := Nat.sub_add_cancel afterSecond
  · exact absurd equal (countP_take_lt hereSecond tokenSecond behind).ne'

/-- The calls that are about to arrive are singled out if they are for the token, and are given the
next numbers. -/
def Numbered (token : String) (mine : CallId → Bool) (place : CallId → CallId)
    (next nextPart : Nat) (calls : List Call) : Prop :=
  ∀ index call, calls[index]? = some call →
    (mine (next + index) = true ↔ call.token = token) ∧
      place (next + index) = nextPart + (calls.take index).countP fun call => call.token = token

theorem rank_numbered (token : String) (next : Nat) (calls : List Call) :
    Numbered token (chosen token next calls) (rank token next calls) next 0 calls := by
  intro index call here
  simp [chosen, rank, here]

theorem Numbered.tail {next nextPart : Nat}
    (numbered : Numbered token mine place next nextPart (call :: calls)) :
    Numbered token mine place (next + 1)
      (nextPart + if call.token = token then 1 else 0) calls := by
  intro index other here
  have shifted : next + 1 + index = next + (index + 1) := by omega
  obtain ⟨own, number⟩ := numbered (index + 1) other here
  rw [shifted]
  refine ⟨own, number.trans ?_⟩
  rw [List.take_succ_cons, List.countP_cons]
  simp only [decide_eq_true_eq, Nat.add_assoc, Nat.add_comm]

/-- Two states between two events, the second of which is what the first is for a token. -/
structure Paired (token : String) (mine : CallId → Bool) (place : CallId → CallId)
    (whole part : State) : Prop where
  scheduled : whole.Scheduled
  mirrors : Mirrors token mine place whole part
  distinct : Distinct mine place
  owned : Owned token mine whole

namespace Paired

variable {event : Timed CallId} {rest : List (Timed CallId)} {phase : Phase}

/-- An event of a singled out call takes place in both states. -/
theorem turn_own (paired : Paired token mine place whole part)
    (perToken : setting.server.PerToken) (due : whole.agenda = event :: rest)
    (own : mine event.item = true) :
    Mirrors token mine place ((whole.turnTo event rest).resume setting event.item)
      (part.step setting) := by
  obtain ⟨scheduled, mirrors, distinct, owned⟩ := paired
  obtain ⟨disciplined, planned, call, phase, called, stood, _⟩ := scheduled.turnTo due
  have inside := (List.getElem?_eq_some_iff.mp stood).1
  have duePart : part.agenda = Timed.rename place event :: excerpt mine place rest := by
    rw [mirrors.agenda, due, excerpt_cons_own own]
  have stepped : part.step setting =
      (part.turnTo (Timed.rename place event) (excerpt mine place rest)).resume setting
        (place event.item) := by
    simp only [State.step, duePart]
    rfl
  have alongside : Alongside token mine place event.item call (whole.turnTo event rest)
      (part.turnTo (Timed.rename place event) (excerpt mine place rest)) := by
    refine ⟨⟨mirrors.entry, mirrors.lane, mirrors.placed, rfl, mirrors.sent, mirrors.writes⟩,
      distinct, ⟨owned.tokens, owned.others⟩, disciplined, planned.inOrder, rfl, own, called,
      inside⟩
  rw [stepped]
  exact alongside.resume perToken

/-- An event of another call has no counterpart. -/
theorem turn_other (paired : Paired token mine place whole part)
    (due : whole.agenda = event :: rest) (notMine : mine event.item = false)
    (called : (whole.turnTo event rest).calls[event.item]? = some call)
    (foreign : call.token ≠ token) :
    Mirrors token mine place ((whole.turnTo event rest).resume setting event.item) part := by
  obtain ⟨scheduled, mirrors, distinct, owned⟩ := paired
  obtain ⟨disciplined, planned, ready⟩ := scheduled.turnTo due
  have confined := (resume_pursued setting disciplined ready).confined called
  have added := Extends.resume disciplined setting called
  have dropped : part.agenda = excerpt mine place rest := by
    rw [mirrors.agenda, due, excerpt_cons_other notMine]
  have turned : Mirrors token mine place (whole.turnTo event rest) part :=
    ⟨mirrors.entry, mirrors.lane, mirrors.placed, dropped, mirrors.sent, mirrors.writes⟩
  have ownedNow : Owned token mine (whole.turnTo event rest) := ⟨owned.tokens, owned.others⟩
  exact turned.foreign ownedNow confined added foreign notMine

theorem foreign_of_ready (paired : Paired token mine place whole part)
    (called : whole.calls[id]? = some call) (ready : whole.Ready id)
    (notMine : mine id = false) : call.token ≠ token := by
  obtain ⟨calling, phase, here, stood, able⟩ := ready
  obtain rfl := Option.some.inj (called.symm.trans here)
  intro same
  rcases paired.owned.others id call phase called stood same with own | ⟨result, finish, rfl⟩
  · simp [own] at notMine
  · exact able

/-- For every event of the whole there is one of the part or none. -/
theorem step (paired : Paired token mine place whole part)
    (perToken : setting.server.PerToken) :
    ∃ count, Paired token mine place (whole.step setting) (part.run setting count) := by
  have scheduled := paired.scheduled.step setting
  cases due : whole.agenda with
  | nil =>
      have unmoved : whole.step setting = whole := by simp [State.step, due]
      rw [unmoved]
      exact ⟨0, paired⟩
  | cons event rest =>
      have stepped : whole.step setting =
          (whole.turnTo event rest).resume setting event.item := by
        simp only [State.step, due]
      obtain ⟨disciplined, _, call, phase, called, stood, able⟩ := paired.scheduled.turnTo due
      have ready : (whole.turnTo event rest).Ready event.item :=
        ⟨call, phase, called, stood, able⟩
      have confined := (resume_pursued setting disciplined ready).confined called
      have ownedNow : Owned token mine (whole.turnTo event rest) :=
        ⟨paired.owned.tokens, paired.owned.others⟩
      rw [stepped] at scheduled ⊢
      cases own : mine event.item with
      | true =>
          refine ⟨1, scheduled, paired.turn_own perToken due own, paired.distinct, ?_⟩
          exact ownedNow.confined confined called (.inl own)
      | false =>
          have foreign : call.token ≠ token := paired.foreign_of_ready called ready own
          refine ⟨0, scheduled, paired.turn_other due own called foreign, paired.distinct, ?_⟩
          exact ownedNow.confined confined called (.inr foreign)

theorem run (paired : Paired token mine place whole part)
    (perToken : setting.server.PerToken) (count : Nat) :
    ∃ fewer, Paired token mine place (whole.run setting count) (part.run setting fewer) := by
  induction count generalizing whole part with
  | zero => exact ⟨0, paired⟩
  | succ count induction =>
      obtain ⟨first, next⟩ := paired.step perToken
      obtain ⟨others, reached⟩ := induction next
      rw [run_run] at reached
      exact ⟨first + others, reached⟩

end Paired

theorem enroll_called_cases {other : Call}
    (called : (state.enroll call).calls[id]? = some other) :
    state.calls[id]? = some other ∨ id = state.calls.length ∧ other = call := by
  have appended : (state.calls ++ [call])[id]? = some other := called
  rw [List.getElem?_append] at appended
  split at appended
  · exact .inl appended
  · rename_i behind
    obtain ⟨first, rfl⟩ : id - state.calls.length = 0 ∧ call = other := by
      simpa [List.getElem?_singleton] using appended
    have last : id = state.calls.length :=
      Nat.le_antisymm (Nat.sub_eq_zero_iff_le.mp first) (Nat.le_of_not_lt behind)
    exact .inr ⟨last, rfl⟩

theorem enroll_cases {other : Call} {phase : Phase} (disciplined : state.toWorld.Disciplined)
    (called : (state.enroll call).calls[id]? = some other)
    (stood : (state.enroll call).standings[id]? = some phase) :
    state.calls[id]? = some other ∧ state.standings[id]? = some phase ∨
      id = state.calls.length ∧ other = call ∧ phase = .starting := by
  rcases enroll_called_cases called with old | ⟨rfl, rfl⟩
  · have bound : id < state.standings.length :=
      disciplined.aligned ▸ (List.getElem?_eq_some_iff.mp old).1
    exact .inl ⟨old, (List.getElem?_append_left bound).symm.trans stood⟩
  · have starts := enroll_stood disciplined other
    exact .inr ⟨rfl, rfl, Option.some.inj (stood.symm.trans starts)⟩

theorem Owned.enroll (owned : Owned token mine whole)
    (fresh : mine whole.calls.length = true ↔ call.token = token)
    (disciplined : whole.toWorld.Disciplined) : Owned token mine (whole.enroll call) := by
  refine ⟨?_, ?_⟩
  · intro id calling own called
    rcases enroll_called_cases called with old | ⟨rfl, rfl⟩
    · exact owned.tokens id calling own old
    · exact fresh.mp own
  · intro id calling phase called stood same
    rcases enroll_cases disciplined called stood with ⟨old, stoodBefore⟩ | ⟨rfl, rfl, rfl⟩
    · exact owned.others id calling phase old stoodBefore same
    · exact .inl (fresh.mpr same)

theorem Mirrors.enroll_own (mirrors : Mirrors token mine place whole part)
    (disciplined : whole.toWorld.Disciplined) (disciplinedPart : part.toWorld.Disciplined)
    (number : place whole.calls.length = part.calls.length) (call : Call) :
    Mirrors token mine place (whole.enroll call) (part.enroll call) := by
  obtain ⟨entry, lane, placed, agenda, sent, writes⟩ := mirrors
  refine ⟨entry, lane, ?_, agenda, sent, writes⟩
  intro id calling phase own called stood
  rcases enroll_cases disciplined called stood with ⟨old, stoodBefore⟩ | ⟨rfl, rfl, rfl⟩
  · obtain ⟨calledPart, stoodPart⟩ := placed id calling phase own old stoodBefore
    have boundCalls := (List.getElem?_eq_some_iff.mp calledPart).1
    have boundStandings := (List.getElem?_eq_some_iff.mp stoodPart).1
    exact ⟨(List.getElem?_append_left boundCalls).trans calledPart,
      (List.getElem?_append_left boundStandings).trans stoodPart⟩
  · rw [number]
    exact ⟨enroll_called part calling, enroll_stood disciplinedPart calling⟩

theorem Mirrors.enroll_other (mirrors : Mirrors token mine place whole part)
    (disciplined : whole.toWorld.Disciplined) (notMine : mine whole.calls.length = false)
    (call : Call) : Mirrors token mine place (whole.enroll call) part := by
  obtain ⟨entry, lane, placed, agenda, sent, writes⟩ := mirrors
  refine ⟨entry, lane, ?_, agenda, sent, writes⟩
  intro id calling phase own called stood
  rcases enroll_cases disciplined called stood with ⟨old, stoodBefore⟩ | ⟨rfl, rfl, rfl⟩
  · exact placed id calling phase own old stoodBefore
  · simp [notMine] at own

namespace Paired

theorem launch_own (paired : Paired token mine place whole part)
    (disciplinedPart : part.toWorld.Disciplined) (perToken : setting.server.PerToken)
    (sameTime : part.now = whole.now)
    (own : mine whole.calls.length = true) (same : call.token = token)
    (number : place whole.calls.length = part.calls.length) :
    Paired token mine place (whole.launch setting call) (part.launch setting call) := by
  obtain ⟨scheduled, mirrors, distinct, owned⟩ := paired
  obtain ⟨disciplined, planned⟩ := scheduled.enroll call
  have called := enroll_called whole call
  have stood := enroll_stood scheduled.disciplined call
  have enrolled := mirrors.enroll_own scheduled.disciplined disciplinedPart number call
  have ownedNow : Owned token mine (whole.enroll call) :=
    owned.enroll (by simp [own, same]) scheduled.disciplined
  refine ⟨scheduled.launch setting call, ?_, distinct, ?_⟩
  · rw [launch_eq, launch_eq, sameTime, ← number]
    split
    · have alongside : Alongside token mine place whole.calls.length call (whole.enroll call)
          (part.enroll call) :=
        ⟨enrolled, distinct, ownedNow, disciplined, planned.inOrder, sameTime, own, called,
          (List.getElem?_eq_some_iff.mp stood).1⟩
      exact alongside.begin perToken stood
    · refine ⟨enrolled.entry, enrolled.lane, enrolled.placed, ?_, enrolled.sent, enrolled.writes⟩
      simp only [State.schedule]
      rw [excerpt_enter planned.inOrder own, ← enrolled.agenda]
  · rw [launch_eq]
    split
    · have pursued := scheduled.begin_pursued setting call
      exact ownedNow.confined (pursued.confined called) called (.inl own)
    · exact ⟨ownedNow.tokens, ownedNow.others⟩

theorem launch_other (paired : Paired token mine place whole part)
    (notMine : mine whole.calls.length = false) (foreign : call.token ≠ token) :
    Paired token mine place (whole.launch setting call) part := by
  obtain ⟨scheduled, mirrors, distinct, owned⟩ := paired
  obtain ⟨disciplined, planned⟩ := scheduled.enroll call
  have called := enroll_called whole call
  have stood := enroll_stood scheduled.disciplined call
  have enrolled := mirrors.enroll_other scheduled.disciplined notMine call
  have ownedNow : Owned token mine (whole.enroll call) :=
    owned.enroll (by simp [notMine, foreign]) scheduled.disciplined
  have launched := scheduled.launch setting call
  rw [launch_eq] at launched ⊢
  split
  · rename_i atOnce
    rw [if_pos atOnce] at launched
    have confined := (scheduled.begin_pursued setting call).confined called
    have added := Extends.begin disciplined setting called stood
    exact ⟨launched, enrolled.foreign ownedNow confined added foreign notMine, distinct,
      ownedNow.confined confined called (.inr foreign)⟩
  · rename_i later
    rw [if_neg later] at launched
    refine ⟨launched, ?_, distinct, ⟨ownedNow.tokens, ownedNow.others⟩⟩
    refine ⟨enrolled.entry, enrolled.lane, enrolled.placed, ?_, enrolled.sent, enrolled.writes⟩
    simp only [State.schedule]
    rw [excerpt_enter_other notMine, ← enrolled.agenda]

theorem launches (paired : Paired token mine place whole part) (scheduledPart : part.Scheduled)
    (perToken : setting.server.PerToken) (sameTime : part.now = whole.now)
    (numbered : Numbered token mine place whole.calls.length part.calls.length calls) :
    Paired token mine place (calls.foldl (State.launch setting) whole)
      ((calls.filter fun call => call.token = token).foldl (State.launch setting) part) := by
  induction calls generalizing whole part with
  | nil => exact paired
  | cons call calls induction =>
      obtain ⟨named, number⟩ := numbered 0 call rfl
      rw [Nat.add_zero] at named number
      obtain ⟨now, called⟩ := paired.scheduled.launch_frame setting call
      obtain ⟨nowPart, calledPart⟩ := scheduledPart.launch_frame setting call
      have next : (whole.launch setting call).calls.length = whole.calls.length + 1 := by
        rw [called, List.length_append, List.length_singleton]
      by_cases same : call.token = token
      · have nextPart : (part.launch setting call).calls.length = part.calls.length + 1 := by
          rw [calledPart, List.length_append, List.length_singleton]
        have arrived := paired.launch_own scheduledPart.disciplined perToken sameTime
          (named.mpr same) same number
        have later := numbered.tail
        rw [if_pos same, ← next, ← nextPart] at later
        rw [List.filter_cons_of_pos (by simpa using same), List.foldl_cons, List.foldl_cons]
        exact induction arrived (scheduledPart.launch setting call)
          (nowPart.trans (sameTime.trans now.symm)) later
      · have notMine : mine whole.calls.length = false := by
          cases own : mine whole.calls.length with
          | false => rfl
          | true => exact absurd (named.mp own) same
        have arrived : Paired token mine place (whole.launch setting call) part :=
          paired.launch_other notMine same
        have later := numbered.tail
        rw [if_neg same, Nat.add_zero, ← next] at later
        rw [List.filter_cons_of_neg (by simpa using same), List.foldl_cons]
        exact induction arrived scheduledPart (sameTime.trans now.symm) later

end Paired

/-- Before a round, the state of a token alone is what the state is for it. -/
theorem prepare_paired (quiet : state.toWorld.Quiet) (token : String) (calls : List Call) :
    Paired token (chosen token state.calls.length calls) (rank token state.calls.length calls)
      state.prepare (state.only token).prepare := by
  have outside : ∀ id, chosen token state.calls.length calls id = true →
      state.calls[id]? = none := fun id own => List.getElem?_eq_none (chosen_eq_true own).1
  refine ⟨(Quiet.prepare quiet).1, ⟨only_entry token state, ?_, ?_, rfl, ?_, rfl⟩,
    rank_distinct token state.calls.length calls, ?_, ?_⟩
  · have lane := only_lane token token state
    rw [if_pos rfl] at lane
    exact lane.trans (Lane.rename_free (quiet.free token).2).symm
  · intro id call phase own called
    exact absurd called (by simp [State.prepare, outside id own])
  · simp [State.prepare, only]
  · intro id call own called
    exact absurd called (by simp [State.prepare, outside id own])
  · intro id call phase called stood same
    exact .inr (quiet.done phase (List.mem_of_getElem? stood))

/-- The end of a round is for a token what the end of the round of its calls alone is. -/
theorem lookUp_paired (quiet : state.toWorld.Quiet) (perToken : setting.server.PerToken)
    (token : String) (calls : List Call) :
    Paired token (chosen token state.calls.length calls) (rank token state.calls.length calls)
      (state.lookUp setting calls)
      ((state.only token).lookUp setting (calls.filter fun call => call.token = token)) := by
  let own := calls.filter fun call => call.token = token
  have quietPart := only_quiet quiet token
  have numbered := rank_numbered token state.calls.length calls
  have launched : Paired token (chosen token state.calls.length calls)
      (rank token state.calls.length calls) (state.launchAll setting calls)
      ((state.only token).launchAll setting own) :=
    (prepare_paired quiet token calls).launches (Quiet.prepare quietPart).1 perToken rfl numbered
  obtain ⟨count, reached⟩ := launched.run perToken (eventsPerCall * calls.length)
  obtain ⟨settled, _⟩ := lookUp_quiet quiet setting calls
  obtain ⟨settledPart, _⟩ := lookUp_quiet quietPart setting own
  have worked : (((state.only token).launchAll setting own).run setting count).agenda = [] :=
    reached.mirrors.agenda.trans (congrArg (excerpt _ _) settled)
  rw [settled_unique worked settledPart] at reached
  exact reached

theorem filter_zip {phases parts : List Phase} (length : calls.length = phases.length)
    (lengthPart : (calls.filter fun call => call.token = token).length = parts.length)
    (same : ∀ index call phase, calls[index]? = some call → call.token = token →
      phases[index]? = some phase →
      parts[(calls.take index).countP fun call => call.token = token]? = some phase) :
    (calls.zip phases).filter (fun outcome => outcome.1.token = token) =
      (calls.filter fun call => call.token = token).zip parts := by
  induction calls generalizing phases parts with
  | nil => rfl
  | cons call calls induction =>
      cases phases with
      | nil => simp at length
      | cons phase phases =>
          have lengthNext : calls.length = phases.length := Nat.succ.inj length
          by_cases own : call.token = token
          · rw [List.filter_cons_of_pos (by simpa using own)] at lengthPart
            cases parts with
            | nil => simp at lengthPart
            | cons first parts =>
                obtain rfl : first = phase := by simpa using same 0 call phase rfl own rfl
                have next := induction lengthNext (Nat.succ.inj lengthPart) (by
                  intro index other placed here mine stood
                  have later := same (index + 1) other placed here mine stood
                  simpa [own] using later)
                simp [own, next]
          · rw [List.filter_cons_of_neg (by simpa using own)] at lengthPart
            have next := induction lengthNext lengthPart (by
              intro index other placed here mine stood
              have later := same (index + 1) other placed here mine stood
              simpa [own] using later)
            simp [own, next]

theorem Course.outcomes_own {base : State} (course : Course calls base state)
    (own : ∀ call ∈ calls, call.token = token) :
    (state.account token).outcomes = calls.zip state.phases := by
  unfold account
  rw [course.round]
  apply List.filter_eq_self.mpr
  intro outcome member
  simpa using own outcome.1 (List.of_mem_zip member).1

theorem Course.account_eq {base basePart : State} (course : Course calls base whole)
    (coursePart : Course (calls.filter fun call => call.token = token) basePart part)
    (first : basePart.calls = []) (alignedPart : part.calls.length = part.standings.length)
    (paired : Paired token (chosen token base.calls.length calls)
      (rank token base.calls.length calls) whole part) :
    whole.account token = part.account token := by
  have aligned := paired.scheduled.disciplined.aligned
  have phases := course.phases_length aligned
  have phasesPart := coursePart.phases_length alignedPart
  have outcomes : (calls.zip whole.phases).filter (fun outcome => outcome.1.token = token) =
      (calls.filter fun call => call.token = token).zip part.phases := by
    apply filter_zip phases.symm phasesPart.symm
    intro index call phase here mine stood
    have own : chosen token base.calls.length calls (base.calls.length + index) = true := by
      simp [chosen, here, mine]
    have number : rank token base.calls.length calls (base.calls.length + index) =
        (calls.take index).countP fun call => call.token = token := by simp [rank]
    rw [course.phase_eq] at stood
    obtain ⟨_, stoodPart⟩ := paired.mirrors.placed (base.calls.length + index) call phase own
      (course.called here) stood
    rw [coursePart.phase_eq, first]
    rw [number] at stoodPart
    simpa using stoodPart
  have alone : (part.account token).outcomes =
      (calls.filter fun call => call.token = token).zip part.phases := by
    apply coursePart.outcomes_own
    intro call member
    simpa using (List.mem_filter.mp member).2
  have together : (whole.account token).outcomes = (part.account token).outcomes := by
    rw [alone, ← outcomes, account, course.round]
  rw [Account.mk.injEq]
  exact ⟨together, paired.mirrors.sent.symm, paired.mirrors.writes.symm⟩

/-- Isolation: for a token, a round of calls comes to what the round of its calls alone comes to.
All of them are done, with the same results at the same times; the same requests are sent and the
same answers are stored. -/
theorem token_isolation (setting : Setting) (state : State) (token : String) (calls : List Call)
    (quiet : state.toWorld.Quiet) (perToken : setting.server.PerToken) :
    let own := calls.filter fun call => call.token = token
    let account := (state.lookUp setting calls).account token
    account = ((state.only token).lookUp setting own).account token ∧
      account.outcomes.map Prod.fst = own ∧
      ∀ outcome ∈ account.outcomes, ∃ result finish, outcome.2 = .done result finish := by
  intro own account
  have quietPart := only_quiet quiet token
  have coursePart := lookUp_course quietPart setting own
  obtain ⟨_, ended⟩ := lookUp_quiet quietPart setting own
  have same : account = ((state.only token).lookUp setting own).account token :=
    (lookUp_course quiet setting calls).account_eq coursePart rfl ended.aligned
      (lookUp_paired quiet perToken token calls)
  have outcomes : account.outcomes = own.zip ((state.only token).lookUp setting own).phases := by
    rw [same]
    apply coursePart.outcomes_own
    intro call member
    simpa using (List.mem_filter.mp member).2
  refine ⟨same, ?_, ?_⟩
  · rw [outcomes, List.map_fst_zip (coursePart.phases_length ended.aligned).ge]
  · intro outcome member
    rw [outcomes] at member
    exact ended.done outcome.2 (List.mem_of_mem_drop (List.of_mem_zip member).2)

def slowing : Setting where
  introspector := .keepsAMinute
  server earlier sent :=
    Introspector.blankReply (10 * earlier.countP fun other => other.token = sent.token)
  wall _ := 0

theorem token_isolation_beside_another :
    (State.lookUp slowing {}
        [.under "a" "t" 0, .under "b" "u" 0, .under "c" "t" 70000]).account "t" =
      (State.lookUp slowing (only "t" {})
        [.under "a" "t" 0, .under "c" "t" 70000]).account "t" := by
  have perToken : slowing.server.PerToken :=
    ⟨fun _ count => Introspector.blankReply (10 * count), fun _ _ => rfl⟩
  exact (token_isolation slowing {} "t"
    [.under "a" "t" 0, .under "b" "u" 0, .under "c" "t" 70000] (World.fresh_quiet .empty)
    perToken).1

end State

end Gateway.Introspection
