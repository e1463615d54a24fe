import Gateway.Proofs.Introspection.Entries
import Gateway.Proofs.Introspection.Traces

/-!
Calls that fail. What the events show of a call is borne out by its place: a call that returned an
error has written nothing and is on its way out of its lock, which nobody can hold up. It had found
nothing in the store, so whoever looks next finds nothing either and asks the server, unless
somebody stored an answer meanwhile.
-/

namespace Gateway.Introspection

def Bypassing : Option Phase → Prop
  | some (.missed none) => True
  | some (.calling none _) => True
  | _ => False

/-- A call has looked into the store, found nothing and not got an answer since. -/
def Unanswered : Option Phase → Prop
  | some (.missed _) => True
  | some (.calling _ _) => True
  | some (.leaving _ (.error _) _) => True
  | some (.releasing _ (.error _) _) => True
  | some (.done (.error _) _) => True
  | _ => False

theorem unanswered_of_failed {place : Option Phase} {error : GatewayError} {finish : Nat}
    (failed : place.bind Phase.result? = some (.error error, finish)) : Unanswered place := by
  obtain ⟨phase, rfl, had⟩ := Option.bind_eq_some_iff.mp failed
  cases phase <;> cases had <;> trivial

/-- A call has not looked into the store yet. -/
def Unlooked : Option Phase → Prop
  | none => True
  | some .starting => True
  | some (.opened _) => True
  | some (.waiting _) => True
  | _ => False

theorem result_of_unlooked {place : Option Phase} (unlooked : Unlooked place) :
    place.bind Phase.result? = none := by
  cases place with
  | none => rfl
  | some phase => cases phase <;> first | rfl | cases unlooked

namespace World.Stepped

variable {setting : Setting} {world : World} {id : CallId} {old new : Option Phase}
  {events : List Event} {result : Except GatewayError Claims} {finish : Nat}

theorem result_stays (way : Stepped setting world id old new events)
    (had : old.bind Phase.result? = some (result, finish)) :
    new.bind Phase.result? = some (result, finish) := by
  cases way with
  | still => exact had
  | withdraw => exact had
  | release => exact had
  | _ => cases had

theorem result_of_returned (way : Stepped setting world id old new events)
    (returned : .returned id result finish ∈ events) :
    new.bind Phase.result? = some (result, finish) := by
  cases way with
  | hit => simp_all [Phase.result?]
  | refuse => simp_all [result_concluded]
  | fail => simp_all [result_concluded]
  | take => simp_all [Phase.result?]
  | keep => simp_all [Phase.result?]
  | _ => simp at returned

theorem result_of_stored {write : Write} (way : Stepped setting world id old new events)
    (stored : .stored id write ∈ events) :
    ∃ claims finish, new.bind Phase.result? = some (.ok claims, finish) := by
  cases way with
  | keep generation reply claims => exact ⟨claims, world.now, rfl⟩
  | _ => simp at stored

theorem bypassing_earlier (way : Stepped setting world id old new events)
    (keeps : 0 < setting.ttl) (bypassing : Bypassing new) : Bypassing old := by
  cases way with
  | still => exact bypassing
  | pass nothingKept => omega
  | ask held => cases held <;> trivial
  | refuse _ held => cases held <;> cases bypassing
  | fail held => cases held <;> cases bypassing
  | _ => cases bypassing

/-- A call that is done was so before, or it has just released its lock, or it never had one. -/
theorem done_earlier (way : Stepped setting world id old new events)
    (done : new = some (.done result finish)) :
    old = some (.done result finish) ∨ Bypassing old ∨ ∃ call generation,
      world.calls[id]? = some call ∧ .released id call.token generation ∈ events := by
  cases way with
  | still => exact .inl done
  | refuse _ held =>
      cases held with
      | none => exact .inr (.inl trivial)
      | some generation => cases done
  | fail held =>
      cases held with
      | none => exact .inr (.inl trivial)
      | some generation => cases done
  | take => exact .inr (.inl trivial)
  | release call generation _ _ called => exact .inr (.inr ⟨call, generation, called, by simp⟩)
  | _ => cases done

theorem unanswered_earlier (way : Stepped setting world id old new events)
    (keeps : 0 < setting.ttl) (unanswered : Unanswered new) :
    Unanswered old ∨ ∃ call generation, world.calls[id]? = some call ∧
      (world.look call.token).1 = none ∧
      old = some (.waiting generation) ∧ new = some (.missed (some generation)) := by
  cases way with
  | still => exact .inl unanswered
  | pass nothingKept => omega
  | miss call generation called absent => exact .inr ⟨call, generation, called, absent, rfl, rfl⟩
  | refuse => exact .inl trivial
  | ask => exact .inl trivial
  | fail => exact .inl trivial
  | withdraw generation result =>
      cases result with
      | ok claims => cases unanswered
      | error error => exact .inl trivial
  | release call generation result =>
      cases result with
      | ok claims => cases unanswered
      | error error => exact .inl trivial
  | _ => cases unanswered

theorem unlooked_earlier (way : Stepped setting world id old new events)
    (unlooked : Unlooked new) : Unlooked old ∧ events = [] := by
  cases way with
  | still => exact ⟨unlooked, rfl⟩
  | openLock => exact ⟨trivial, rfl⟩
  | joinLine => exact ⟨trivial, rfl⟩
  | refuse _ held => cases held <;> cases unlooked
  | fail held => cases held <;> cases unlooked
  | _ => cases unlooked

theorem calling_earlier {held : Option Nat} {reply : Reply}
    (way : Stepped setting world id old new events) (asks : new = some (.calling held reply)) :
    old = some (.calling held reply) ∨ ∃ sent, .asked id sent reply ∈ events := by
  cases way with
  | still => exact .inl asks
  | ask other sent =>
      cases asks
      exact .inr ⟨sent, by simp⟩
  | refuse _ other => cases other <;> cases asks
  | fail other => cases other <;> cases asks
  | _ => cases asks

theorem result_earlier (way : Stepped setting world id old new events)
    (had : new.bind Phase.result? = some (result, finish)) :
    old.bind Phase.result? = some (result, finish) ∨
      (∃ held reply, old = some (.calling held reply)) ∨
      (∃ call error, world.calls[id]? = some call ∧
        setting.introspector.prepare call.token = .error error ∧
        result = .error error) ∨
      ∃ call generation claims, old = some (.waiting generation) ∧ world.calls[id]? = some call ∧
        (world.look call.token).1 = some claims := by
  cases way with
  | still => exact .inl had
  | hit call generation claims called found =>
      exact .inr (.inr (.inr ⟨call, generation, claims, rfl, called, found⟩))
  | refuse call held error called refused =>
      have same : result = .error error := by
        simpa [result_concluded, eq_comm] using congrArg (Option.map Prod.fst) had
      exact .inr (.inr (.inl ⟨call, error, called, refused, same⟩))
  | fail held reply => exact .inr (.inl ⟨held, reply, rfl⟩)
  | take reply => exact .inr (.inl ⟨none, reply, rfl⟩)
  | keep generation reply => exact .inr (.inl ⟨some generation, reply, rfl⟩)
  | withdraw => exact .inl had
  | release => exact .inl had
  | _ => cases had

end World.Stepped

def writesOfOthers (id : CallId) (events : List Event) : List Write :=
  writesOf (events.filter fun event => event.caller ≠ id)

theorem writesOfOthers_eq {id : CallId} {events : List Event}
    (noWrite : ∀ write, .stored id write ∉ events) : writesOfOthers id events = writesOf events := by
  rw [writesOfOthers, writesOf, List.filterMap_filter]
  apply List.filterMap_congr
  intro event member
  split
  · rfl
  · rename_i own
    have mine : event.caller = id := by simpa using own
    cases event with
    | stored other write =>
        obtain rfl : other = id := mine
        exact absurd member (noWrite write)
    | _ => rfl

namespace Chronicle

variable {setting : Setting} {chronicle : Chronicle} {id next : CallId} {call : Call} {turn : Turn}
  {token : String} {result : Except GatewayError Claims} {finish : Nat}

/-- The events show a result of a call only if it has this result, and a write only if that is an
answer. -/
structure Borne (chronicle : Chronicle) (id : CallId) : Prop where
  returned : ∀ result finish, .returned id result finish ∈ chronicle.events →
    (chronicle.place id).bind Phase.result? = some (result, finish)
  stored : ∀ write, .stored id write ∈ chronicle.events → ∃ claims finish,
    (chronicle.place id).bind Phase.result? = some (.ok claims, finish)

theorem Borne.step (borne : chronicle.Borne id) (setting : Setting) (turn : Turn) :
    (chronicle.step setting turn).Borne id := by
  obtain ⟨more, shown, ⟨others, stays⟩ | ⟨_, way⟩⟩ := step_place setting chronicle turn id
  · -- the turn is not a move of the call: place and events of the call stay
    have result : ((chronicle.step setting turn).place id).bind Phase.result? =
        (chronicle.place id).bind Phase.result? := by
      rcases stays with same | ⟨absent, arrived⟩
      · rw [same]
      · rw [absent, arrived]
        rfl
    have earlier (event : Event) (member : event ∈ (chronicle.step setting turn).events)
        (own : event.caller = id) : event ∈ chronicle.events := by
      rw [shown] at member
      exact (List.mem_append.mp member).resolve_right fun new => others event new own
    refine ⟨fun value finish member => ?_, fun write member => ?_⟩
    · rw [result]
      exact borne.returned value finish (earlier _ member rfl)
    · rw [result]
      exact borne.stored write (earlier _ member rfl)
  · refine ⟨fun value finish member => ?_, fun write member => ?_⟩
    · rcases List.mem_append.mp (shown ▸ member) with past | new
      · exact way.result_stays (borne.returned value finish past)
      · exact way.result_of_returned new
    · rcases List.mem_append.mp (shown ▸ member) with past | new
      · obtain ⟨claims, finish, had⟩ := borne.stored write past
        exact ⟨claims, finish, way.result_stays had⟩
      · exact way.result_of_stored new

theorem Borne.play (borne : chronicle.Borne id) (setting : Setting) (turns : List Turn) :
    (chronicle.play setting turns).Borne id := by
  induction turns generalizing chronicle with
  | nil => exact borne
  | cons turn turns induction => exact induction (borne.step setting turn)

theorem fresh_borne (store : Store) (id : CallId) : (fresh store).Borne id where
  returned := by simp [fresh]
  stored := by simp [fresh]

theorem Borne.not_stored {error : GatewayError} (borne : chronicle.Borne id)
    (failed : .returned id (.error error) finish ∈ chronicle.events) (write : Write) :
    .stored id write ∉ chronicle.events := by
  intro stored
  obtain ⟨claims, time, had⟩ := borne.stored write stored
  have same := had.symm.trans (borne.returned _ _ failed)
  cases same

/-- A call holds its lock as long as it asks the server, and gives it back before it is done. -/
structure Guarded (chronicle : Chronicle) (id : CallId) : Prop where
  locked : ¬Bypassing (chronicle.place id)
  released : ∀ result finish, chronicle.place id = some (.done result finish) →
    ∃ call generation, chronicle.world.calls[id]? = some call ∧
      .released id call.token generation ∈ chronicle.events

theorem Guarded.step (guarded : chronicle.Guarded id) (keeps : 0 < setting.ttl) (turn : Turn) :
    (chronicle.step setting turn).Guarded id := by
  obtain ⟨more, shown, ⟨_, same | ⟨_, arrived⟩⟩ | ⟨_, way⟩⟩ := step_place setting chronicle turn id
  · refine ⟨same ▸ guarded.locked, fun result finish done => ?_⟩
    obtain ⟨call, generation, called, released⟩ := guarded.released result finish (same ▸ done)
    exact ⟨call, generation, step_calls called, shown ▸ List.mem_append_left more released⟩
  · refine ⟨by simp [arrived, Bypassing], fun result finish done => ?_⟩
    rw [arrived] at done
    cases done
  · refine ⟨fun bypassing => guarded.locked (way.bypassing_earlier keeps bypassing), ?_⟩
    intro result finish done
    rcases way.done_earlier done with before | bypassing | ⟨call, generation, called, released⟩
    · obtain ⟨call, generation, called, released⟩ := guarded.released result finish before
      exact ⟨call, generation, step_calls called, shown ▸ List.mem_append_left more released⟩
    · exact absurd bypassing guarded.locked
    · exact ⟨call, generation, step_calls called, shown ▸ List.mem_append_right _ released⟩

theorem Guarded.play (guarded : chronicle.Guarded id) (keeps : 0 < setting.ttl)
    (turns : List Turn) : (chronicle.play setting turns).Guarded id := by
  induction turns generalizing chronicle with
  | nil => exact guarded
  | cons turn turns induction => exact induction (guarded.step keeps turn)

theorem fresh_guarded (store : Store) (id : CallId) : (fresh store).Guarded id where
  locked := by simp [fresh, place, Bypassing]
  released := by simp [fresh, place]

section

variable {generation : Nat} (called : chronicle.world.calls[id]? = some call)
include called

theorem step_leaving (stands : chronicle.place id = some (.leaving generation result finish)) :
    (chronicle.step setting (.go id)).place id = some (.releasing generation result finish) := by
  have stood : chronicle.world.standings[id]? = some (.leaving generation result finish) := stands
  have inside := (List.getElem?_eq_some_iff.mp stood).1
  have moved : (chronicle.world.advance setting id).1 =
      (chronicle.world.withdraw call.token generation).setPhase id
        (.releasing generation result finish) := by
    simp only [World.advance, called, stood]
  exact (congrArg (·.standings[id]?) moved).trans (World.stood_setPhase inside _)

theorem step_releasing (stands : chronicle.place id = some (.releasing generation result finish)) :
    (chronicle.step setting (.go id)).place id = some (.done result finish) := by
  have stood : chronicle.world.standings[id]? = some (.releasing generation result finish) := stands
  have inside := (List.getElem?_eq_some_iff.mp stood).1
  have moved : (chronicle.world.advance setting id).1 =
      (chronicle.world.release call.token generation).2.setPhase id (.done result finish) := by
    simp only [World.advance, called, stood]
  exact (congrArg (·.standings[id]?) moved).trans (World.stood_setPhase inside _)

end

theorem step_done (done : chronicle.place id = some (.done result finish)) (turn : Turn) :
    (chronicle.step setting turn).place id = some (.done result finish) := by
  obtain ⟨more, _, ⟨_, same | ⟨absent, _⟩⟩ | ⟨_, way⟩⟩ := step_place setting chronicle turn id
  · rw [same, done]
  · rw [absent] at done
    cases done
  · rw [done] at way
    generalize (chronicle.step setting turn).place id = new at way
    cases way
    rfl

theorem play_done (done : chronicle.place id = some (.done result finish)) (turns : List Turn) :
    (chronicle.play setting turns).place id = some (.done result finish) := by
  induction turns generalizing chronicle with
  | nil => exact done
  | cons turn turns induction => exact induction (step_done done turn)

/-- A call with a result is done after two moves of its own: nobody can hold it up. -/
theorem done_after_two_moves (called : chronicle.world.calls[id]? = some call)
    (had : (chronicle.place id).bind Phase.result? = some (result, finish)) :
    (chronicle.play setting [.go id, .go id]).place id = some (.done result finish) := by
  obtain ⟨phase, stands, has⟩ := Option.bind_eq_some_iff.mp had
  cases phase with
  | leaving generation value time =>
      cases has
      exact step_releasing (step_calls called) (step_leaving called stands)
  | releasing generation value time =>
      cases has
      exact step_done (step_releasing called stands) (.go id)
  | done value time =>
      cases has
      exact play_done stands _
  | _ => cases has

/-- A call has gone: it has released its lock, which is out of the table, and is at no other. -/
structure Gone (chronicle : Chronicle) (id : CallId) (token : String)
    (result : Except GatewayError Claims) (finish : Nat) : Prop where
  done : chronicle.place id = some (.done result finish)
  released : ∃ generation, .released id token generation ∈ chronicle.events ∧
    (chronicle.world.table.lane token).Retired generation
  free : ∀ token generation, ((chronicle.world.table.lane token).lock generation).holder ≠ some id ∧
    id ∉ ((chronicle.world.table.lane token).lock generation).waiting

theorem gone_of_done (orderly : chronicle.Orderly) (guarded : chronicle.Guarded id)
    (called : chronicle.world.calls[id]? = some call)
    (done : chronicle.place id = some (.done result finish)) :
    chronicle.Gone id call.token result finish := by
  refine ⟨done, ?_, ?_⟩
  · obtain ⟨other, generation, here, released⟩ := guarded.released result finish done
    obtain rfl := Option.some.inj (here.symm.trans called)
    exact ⟨generation, released, orderly.retired id other.token generation released⟩
  · intro token generation
    have queued := (orderly.disciplined.tended token).queued generation
    have stands {phase : Phase} (standing : chronicle.world.standing token id = some phase) :
        phase = .done result finish := by
      obtain ⟨_, _, _, stood⟩ := World.exists_call_of_standing standing
      exact Option.some.inj (stood.symm.trans done)
    constructor
    · intro holds
      obtain ⟨phase, standing, engaged⟩ := queued.holder_stands id holds
      obtain rfl := stands standing
      rcases engaged with inLine | inside
      · cases inLine
      · cases inside
    · intro inLine
      obtain ⟨phase, standing, waits⟩ := queued.line_queued id inLine
      obtain rfl := stands standing
      cases waits

/-- The next move of a call is to look into the store, and it finds nothing. -/
def Misses (setting : Setting) (chronicle : Chronicle) (id : CallId) : Prop :=
  ∃ generation, chronicle.place id = some (.waiting generation) ∧
    (chronicle.step setting (.go id)).place id = some (.missed (some generation))

/-- A call without an answer has looked into the store at some turn and found nothing. -/
theorem exists_look (setting : Setting) (store : Store) (turns : List Turn)
    (keeps : 0 < setting.ttl)
    (unanswered : Unanswered (((fresh store).play setting turns).place id)) :
    ∃ before after call, turns = before ++ .go id :: after ∧
      ((fresh store).play setting before).world.calls[id]? = some call ∧
      ((fresh store).play setting before).IsBare call.token ∧
      ((fresh store).play setting before).Misses setting id := by
  -- on the last turn: the call was without an answer before it, or this turn is its look
  induction turns using List.reverseRecOn with
  | nil => simp [play, fresh, place, Unanswered] at unanswered
  | append_singleton turns turn induction =>
      rw [play_append] at unanswered
      have extended (past : Unanswered (((fresh store).play setting turns).place id)) :
          ∃ before after call, turns ++ [turn] = before ++ .go id :: after ∧
            ((fresh store).play setting before).world.calls[id]? = some call ∧
            ((fresh store).play setting before).IsBare call.token ∧
            ((fresh store).play setting before).Misses setting id := by
        obtain ⟨before, after, call, split, called, bare, misses⟩ := induction past
        exact ⟨before, after ++ [turn], call, by simp [split], called, bare, misses⟩
      obtain ⟨more, _, ⟨_, same | ⟨_, arrived⟩⟩ | ⟨rfl, way⟩⟩ :=
        step_place setting ((fresh store).play setting turns) turn id
      · exact extended (same ▸ unanswered)
      · rw [play, List.foldl_cons, List.foldl_nil, arrived] at unanswered
        cases unanswered
      · rcases way.unanswered_earlier keeps unanswered with
          past | ⟨call, generation, called, absent, waited, missed⟩
        · exact extended past
        · exact ⟨turns, [], call, rfl, called, bare_iff_look.mp absent, generation, waited, missed⟩

def HasAsked (events : List Event) (id : CallId) : Prop :=
  ∃ sent reply, .asked id sent reply ∈ events

theorem hasAsked_iff {events : List Event} :
    HasAsked events id ↔ id ∈ events.filterMap Event.asker? := by
  simp only [List.mem_filterMap]
  constructor
  · rintro ⟨sent, reply, shown⟩
    exact ⟨_, shown, rfl⟩
  · rintro ⟨event, shown, asks⟩
    cases event with
    | asked other sent reply =>
        obtain rfl : other = id := Option.some.inj asks
        exact ⟨sent, reply, shown⟩
    | _ => cases asks

theorem HasAsked.mono {events : List Event} (asked : HasAsked events id) (more : List Event) :
    HasAsked (events ++ more) id := by
  obtain ⟨sent, reply, shown⟩ := asked
  exact ⟨sent, reply, List.mem_append_left more shown⟩

/-- Nobody but one call has stored an answer for a token that is kept. -/
def NobodyElseStored (id : CallId) (token : String) (events : List Event) : Prop :=
  ∀ other write, .stored other write ∈ events → other ≠ id → write.key = storeKey token →
    write.ttl ≤ 0

structure Searching (setting : Setting) (token : String) (id : CallId) (chronicle : Chronicle) :
    Prop where
  bare : Unlooked (chronicle.place id) → chronicle.IsBare token
  calling : ∀ held reply, chronicle.place id = some (.calling held reply) →
    HasAsked chronicle.events id
  returned : ∀ result finish, (chronicle.place id).bind Phase.result? = some (result, finish) →
    HasAsked chronicle.events id ∨ ∃ error,
      setting.introspector.prepare token = .error error ∧ result = .error error

theorem searching_of_bare (unlooked : Unlooked (chronicle.place id))
    (bare : chronicle.IsBare token) : Searching setting token id chronicle where
  bare _ := bare
  calling held reply stands := by
    rw [stands] at unlooked
    cases unlooked
  returned result finish had := by
    rw [result_of_unlooked unlooked] at had
    cases had

theorem NobodyElseStored.harmless {events : List Event} (alone : NobodyElseStored id token events)
    (others : ∀ event ∈ events, event.caller ≠ id) :
    ∀ write ∈ writesOf events, write.key = storeKey token → write.ttl ≤ 0 := by
  intro write member
  obtain ⟨event, shown, writes⟩ := List.mem_filterMap.mp member
  cases event with
  | stored other kept =>
      cases writes
      exact alone other write shown (others _ shown)
  | _ => cases writes

theorem Searching.step {more : List Event} (searching : Searching setting token id chronicle)
    (shown : (chronicle.step setting turn).events = chronicle.events ++ more)
    (mine : ∀ call, chronicle.world.calls[id]? = some call → call.token = token)
    (alone : NobodyElseStored id token more) :
    Searching setting token id (chronicle.step setting turn) := by
  obtain ⟨other, split, course⟩ := step_place setting chronicle turn id
  obtain rfl : other = more := List.append_cancel_left (split.symm.trans shown)
  obtain ⟨bare, calling, returned⟩ := searching
  have asked (past : HasAsked chronicle.events id) :
      HasAsked (chronicle.step setting turn).events id := shown ▸ past.mono other
  rcases course with ⟨others, same | ⟨absent, arrived⟩⟩ | ⟨_, way⟩
  · refine ⟨fun unlooked => ?_, fun held reply stands => ?_, fun result finish had => ?_⟩
    · exact (bare (same ▸ unlooked)).step shown (alone.harmless others)
    · exact asked (calling held reply (same ▸ stands))
    · exact (returned result finish (same ▸ had)).imp_left asked
  · have before : chronicle.IsBare token := bare (by rw [absent]; trivial)
    exact searching_of_bare (by rw [arrived]; trivial) (before.step shown (alone.harmless others))
  · refine ⟨fun unlooked => ?_, fun held reply stands => ?_, fun result finish had => ?_⟩
    · obtain ⟨earlier, nothing⟩ := way.unlooked_earlier unlooked
      exact (bare earlier).step shown (by simp [nothing, writesOf])
    · rcases way.calling_earlier stands with before | ⟨sent, new⟩
      · exact asked (calling held reply before)
      · exact ⟨sent, reply, shown ▸ List.mem_append_right _ new⟩
    · rcases way.result_earlier had with before | ⟨held, reply, before⟩ | refused | hit
      · exact (returned result finish before).imp_left asked
      · exact .inl (asked (calling held reply before))
      · obtain ⟨call, error, called, refused, same⟩ := refused
        exact .inr ⟨error, mine call called ▸ refused, same⟩
      · obtain ⟨call, generation, claims, before, called, found⟩ := hit
        -- it looked into a bare store
        have nothing : chronicle.IsBare token := bare (by rw [before]; trivial)
        rw [← mine call called] at nothing
        have absent := bare_iff_look.mpr nothing
        rw [found] at absent
        cases absent

theorem events_play (setting : Setting) (chronicle : Chronicle) (turns : List Turn) :
    ∃ more, (chronicle.play setting turns).events = chronicle.events ++ more := by
  induction turns generalizing chronicle with
  | nil => exact ⟨[], (List.append_nil _).symm⟩
  | cons turn turns induction =>
      obtain ⟨first, shown, _⟩ := step_place setting chronicle turn 0
      obtain ⟨rest, later⟩ := induction (chronicle.step setting turn)
      exact ⟨first ++ rest, later.trans (by rw [shown, List.append_assoc])⟩

theorem events_play_cons {turn : Turn} {turns : List Turn} {more : List Event}
    (shown : (chronicle.play setting (turn :: turns)).events = chronicle.events ++ more) :
    ∃ first rest, more = first ++ rest ∧
      (chronicle.step setting turn).events = chronicle.events ++ first ∧
      ((chronicle.step setting turn).play setting turns).events =
        (chronicle.step setting turn).events ++ rest := by
  obtain ⟨first, next, _⟩ := step_place setting chronicle turn 0
  obtain ⟨rest, later⟩ := events_play setting (chronicle.step setting turn) turns
  have whole : chronicle.events ++ (first ++ rest) = chronicle.events ++ more := by
    rw [← List.append_assoc, ← next, ← later]
    exact shown
  exact ⟨first, rest, (List.append_cancel_left whole).symm, next, later⟩

theorem Searching.play {more : List Event} {turns : List Turn}
    (searching : Searching setting token id chronicle)
    (shown : (chronicle.play setting turns).events = chronicle.events ++ more)
    (mine : ∀ call, (chronicle.play setting turns).world.calls[id]? = some call →
      call.token = token)
    (alone : NobodyElseStored id token more) :
    Searching setting token id (chronicle.play setting turns) := by
  induction turns generalizing chronicle more with
  | nil => exact searching
  | cons turn turns induction =>
      obtain ⟨first, rest, rfl, next, later⟩ := events_play_cons shown
      have parts : NobodyElseStored id token first ∧ NobodyElseStored id token rest :=
        ⟨fun other write stored => alone other write (List.mem_append_left _ stored),
          fun other write stored => alone other write (List.mem_append_right _ stored)⟩
      apply induction _ later mine parts.2
      apply searching.step next _ parts.1
      intro call called
      exact mine call (play_calls (step_calls called) turns)

/-- Whoever had not looked while the store was bare has to ask, unless somebody else stored. -/
theorem searching_since {turns : List Turn} (unlooked : Unlooked (chronicle.place id))
    (bare : chronicle.IsBare token)
    (mine : ∀ call, (chronicle.play setting turns).world.calls[id]? = some call →
      call.token = token)
    (alone : NobodyElseStored id token
      ((chronicle.play setting turns).events.drop chronicle.events.length)) :
    Searching setting token id (chronicle.play setting turns) := by
  obtain ⟨since, shown⟩ := events_play setting chronicle turns
  rw [shown, List.drop_left] at alone
  exact (searching_of_bare unlooked bare).play shown mine alone

theorem step_miss {generation : Nat} (setting : Setting)
    (called : chronicle.world.calls[id]? = some call)
    (stands : chronicle.place id = some (.waiting generation))
    (holds : ((chronicle.world.table.lane call.token).lock generation).holder = some id)
    (bare : chronicle.IsBare call.token) :
    (chronicle.step setting (.go id)).place id = some (.missed (some generation)) := by
  have stood : chronicle.world.standings[id]? = some (.waiting generation) := stands
  have inside := (List.getElem?_eq_some_iff.mp stood).1
  have absent := bare_iff_look.mpr bare
  have moved : (chronicle.world.advance setting id).1 =
      (chronicle.world.look call.token).2.setPhase id (.missed (some generation)) := by
    simp only [World.advance, called, stood, holds, if_true, World.consult, absent]
  exact (congrArg (·.standings[id]?) moved).trans (World.stood_setPhase inside _)

theorem step_ask {held : Option Nat} (called : chronicle.world.calls[id]? = some call)
    (stands : chronicle.place id = some (.missed held)) :
    HasAsked (chronicle.step setting (.go id)).events id ∨ ∃ error,
      setting.introspector.prepare call.token = .error error ∧
      .returned id (.error error) chronicle.world.now ∈
        (chronicle.step setting (.go id)).events := by
  have stood : chronicle.world.standings[id]? = some (.missed held) := stands
  have moved : chronicle.world.advance setting id =
      chronicle.world.ask setting id call held := by
    simp only [World.advance, called, stood]
  have shown : (chronicle.step setting (.go id)).events =
      chronicle.events ++ (chronicle.world.ask setting id call held).2 := by
    rw [← moved]
    rfl
  rw [shown]
  cases made : setting.introspector.request call.context call.token with
  | ok request =>
      left
      let sent := chronicle.world.sending call.token request
      refine ⟨sent, setting.server chronicle.world.sent sent, List.mem_append_right _ ?_⟩
      simp only [World.ask, made]
      exact List.mem_singleton.mpr rfl
  | error error =>
      refine .inr ⟨error, Introspector.request_eq_error_iff.mp made, List.mem_append_right _ ?_⟩
      simp only [World.ask, made]
      exact List.mem_singleton.mpr rfl

theorem Searching.asks {generation : Nat} (searching : Searching setting call.token id chronicle)
    (called : chronicle.world.calls[id]? = some call)
    (stands : chronicle.place id = some (.waiting generation))
    (holds : ((chronicle.world.table.lane call.token).lock generation).holder = some id) :
    HasAsked (chronicle.play setting [.go id, .go id]).events id ∨ ∃ error,
      setting.introspector.prepare call.token = .error error ∧
      .returned id (.error error) chronicle.world.now ∈
        (chronicle.play setting [.go id, .go id]).events := by
  have bare : chronicle.IsBare call.token := searching.bare (by rw [stands]; trivial)
  have missed := step_miss setting called stands holds bare
  have same : (chronicle.step setting (.go id)).world.now = chronicle.world.now :=
    World.now_advance setting chronicle.world id
  rw [← same]
  exact step_ask (step_calls called) missed

/-- A call that failed leaves no trace, whatever else goes on. It has written nothing; the store
answers every later read as if only the other calls had written; two moves of its own, which nobody
can hold up, take it out of its lock for good; and whoever looked into the store only after it asks
the server as the failed call did, unless somebody stored an answer since the failed call looked. A
call that has its lock then asks at once. Where no request can be made at all, asking ends in the
same error each time. -/
theorem failed_call_leaves_no_trace (setting : Setting) (store : Store) (turns : List Turn)
    (id : CallId) (call : Call) (error : GatewayError) (time : Nat) (keeps : 0 < setting.ttl)
    (called : ((fresh store).play setting turns).world.calls[id]? = some call)
    (failed : .returned id (.error error) time ∈ ((fresh store).play setting turns).events) :
    let chronicle := (fresh store).play setting turns
    (∀ write, .stored id write ∉ chronicle.events) ∧
    (∀ key later, chronicle.world.now ≤ later → (chronicle.world.store.get later key).1 =
      ((replay store (writesOfOthers id chronicle.events)).get later key).1) ∧
    (∀ more, ((chronicle.play setting [.go id, .go id]).play setting more).Gone id call.token
      (.error error) time) ∧
    ∃ before after, turns = before ++ .go id :: after ∧
      ((fresh store).play setting before).Misses setting id ∧ ∀ more next other,
      let start := (fresh store).play setting before
      let final := chronicle.play setting more
      Unlooked (start.place next) → final.world.calls[next]? = some other →
      other.token = call.token →
      NobodyElseStored next call.token (final.events.drop start.events.length) →
      (∀ result finish, .returned next result finish ∈ final.events →
        HasAsked final.events next ∨ ∃ error,
          setting.introspector.prepare call.token = .error error ∧
          result = .error error) ∧
      (∀ generation, final.place next = some (.waiting generation) →
        ((final.world.table.lane call.token).lock generation).holder = some next →
        HasAsked (final.play setting [.go next, .go next]).events next ∨ ∃ error,
          setting.introspector.prepare call.token = .error error ∧
          .returned next (.error error) final.world.now ∈
            (final.play setting [.go next, .go next]).events) := by
  intro chronicle
  have borne : chronicle.Borne id := (fresh_borne store id).play setting turns
  have noWrite := borne.not_stored failed
  have had := borne.returned _ _ failed
  refine ⟨noWrite, ?_, ?_, ?_⟩
  · intro key later after
    rw [writesOfOthers_eq noWrite, Store.get_fst, Store.get_fst]
    exact play_alike setting store turns key later after
  · intro more
    apply gone_of_done
    · exact (((fresh_orderly store).play setting turns).play setting _).play setting more
    · exact (((fresh_guarded store id).play keeps turns).play keeps _).play keeps more
    · exact play_calls (play_calls called _) more
    · exact play_done (done_after_two_moves called had) more
  · obtain ⟨before, after, looker, split, here, bare, misses⟩ :=
      exists_look setting store turns keeps (unanswered_of_failed had)
    refine ⟨before, after, split, misses, ?_⟩
    intro more next other start final unlooked calledNext mine alone
    have whole : chronicle = start.play setting (.go id :: after) := by
      rw [← play_append, ← split]
    obtain rfl : looker = call := by
      have later : (start.play setting (.go id :: after)).world.calls[id]? = some looker :=
        play_calls here _
      rw [← whole] at later
      exact Option.some.inj (later.symm.trans called)
    have course : final = start.play setting (.go id :: after ++ more) := by
      rw [play_append, ← whole]
    have named : ∀ call, final.world.calls[next]? = some call → call.token = looker.token := by
      intro caller found
      obtain rfl := Option.some.inj (found.symm.trans calledNext)
      exact mine
    have searching : Searching setting looker.token next final := by
      rw [course] at named alone ⊢
      exact searching_since unlooked bare named alone
    refine ⟨?_, ?_⟩
    · intro result finish returned
      have borneNext : final.Borne next :=
        ((fresh_borne store next).play setting turns).play setting more
      exact searching.returned result finish (borneNext.returned result finish returned)
    · intro generation stands holds
      rw [← mine] at searching holds ⊢
      exact searching.asks calledNext stands holds

def failing : Setting where
  introspector := .keepsAMinute
  server _ _ := { outcome := .error .clientDisconnect }
  wall _ := 0

def solo (id : CallId) : List Turn :=
  .arrive (.under "r" "t" 0) :: List.replicate 7 (.go id)

def afterOne : Chronicle := (fresh .empty).play failing (solo 0)

def afterTwo : Chronicle := afterOne.play failing (solo 1)

theorem afterTwo_place : afterTwo.place 1 =
    some (.done (.error (.introspectionTransport "client disconnected")) 0) := rfl

theorem failed_call_leaves_no_trace_to_the_next :
    (afterOne.play failing [.go 0, .go 0]).Gone 0 "t"
      (.error (.introspectionTransport "client disconnected")) 0 ∧ HasAsked afterTwo.events 1 := by
  have failed : .returned 0 (.error (.introspectionTransport "client disconnected")) 0 ∈
      afterOne.events := .tail _ (.head _)
  obtain ⟨_, _, gone, before, after, split, _, next⟩ := failed_call_leaves_no_trace failing .empty
    (solo 0) 0 (.under "r" "t" 0) _ 0 (by decide) rfl failed
  refine ⟨gone [], ?_⟩
  have early : ∀ count < 9,
      (((fresh .empty).play failing ((solo 0).take count)).place 1).isNone = true := by
    decide +kernel
  have unlooked : Unlooked (((fresh .empty).play failing before).place 1) := by
    have start : before = (solo 0).take before.length := by rw [split, List.take_left]
    have short : before.length < 9 := by
      have total := congrArg List.length split
      simp [solo] at total
      omega
    have absent := early before.length short
    rw [← start, Option.isNone_iff_eq_none] at absent
    rw [absent]
    trivial
  have nothing : writesOf afterTwo.events = [] := by decide +kernel
  have quiet : NobodyElseStored 1 "t" (afterTwo.events.drop
      ((fresh .empty).play failing before).events.length) := by
    intro other write stored
    have kept : write ∈ writesOf afterTwo.events :=
      List.mem_filterMap.mpr ⟨_, List.mem_of_mem_drop stored, rfl⟩
    rw [nothing] at kept
    cases kept
  have recorded : Recorded failing afterTwo :=
    ((fresh_recorded failing).play (solo 0)).play (solo 1)
  have returned := recorded.voiced 1 _ afterTwo_place
  obtain ⟨tried, _⟩ := next (solo 1) 1 (.under "r" "t" 0) unlooked rfl rfl quiet
  rcases tried _ 0 returned with asked | ⟨error, refused, _⟩
  · exact asked
  · cases refused

/-- A setting whose endpoint is no target, though it is accepted when the settings are checked. -/
def unroutable : Setting := { failing with
  introspector.config.endpoint := "http://as/in trospect" }

/-- A setting whose endpoint was never checked, as it came with an authenticator of its own. -/
def unaddressed : Setting := { failing with
  introspector.config.endpoint := "as/introspect" }

/-- A setting whose authenticator has nothing to show. -/
def uncredited : Setting := { failing with
  introspector.authenticator := fun _ _ => .error (.configuration "no credentials") }

/-- Two calls, one after the other, fail in the same way, and neither sends or stores anything. -/
def FailsTwice (setting : Setting) (error : GatewayError) : Prop :=
  let chronicle := ((fresh .empty).play setting (solo 0)).play setting (solo 1)
  0 < setting.ttl ∧ chronicle.place 0 = some (.done (.error error) 0) ∧
    chronicle.place 1 = some (.done (.error error) 0) ∧
    (∀ id write, .stored id write ∉ chronicle.events) ∧ ¬HasAsked chronicle.events 1

theorem failsTwice_of_events {error : GatewayError} (keeps : 0 < setting.ttl)
    (first : (((fresh .empty).play setting (solo 0)).play setting (solo 1)).place 0 =
      some (.done (.error error) 0))
    (second : (((fresh .empty).play setting (solo 0)).play setting (solo 1)).place 1 =
      some (.done (.error error) 0))
    (events : (((fresh .empty).play setting (solo 0)).play setting (solo 1)).events =
      [.returned 0 (.error error) 0, .released 0 "t" 0,
        .returned 1 (.error error) 0, .released 1 "t" 1]) : FailsTwice setting error := by
  refine ⟨keeps, first, second, ?_, ?_⟩
  · simp [events]
  · simp [HasAsked, events]

def fickle : Setting where
  introspector := .keepsAMinute
  server earlier _ :=
    if earlier.length = 1 then Introspector.blankReply 0
    else { outcome := .error .clientDisconnect }
  wall _ := 0

/-- Call 1 waits behind call 0, whose lock leaves the table before it is handed on. So call 2 gets a
lock of its own, finds as little as call 1 and stores its answer while call 1 waits to fail. -/
def overtaken : Chronicle := (fresh .empty).play fickle
  (([0, 1, 2].map fun _ => .arrive (.under "r" "t" 0)) ++
    [0, 0, 1, 1, 0, 0, 0, 0, 2, 2, 0, 1, 2, 2, 2, 1, 1].map .go)

def served : Chronicle :=
  overtaken.play fickle (.arrive (.under "s" "t" 0) :: [1, 1, 2, 2, 3, 3, 3, 3, 3].map .go)

def verdict (chronicle : Chronicle) (id : CallId) : Option Bool :=
  ((chronicle.place id).bind Phase.result?).map fun outcome => outcome.1.isOk

/-- The next call need not ask the server itself although nobody stored an answer since the failed
one returned. No request may be possible, be it for an endpoint that was accepted or never checked
or for want of anything to show: then it fails in the same way. Or somebody stored an answer while
the failed one was still waiting for its reply. -/
theorem refused_again_without_request :
    FailsTwice unroutable (.configuration "introspection endpoint: invalid uri character") ∧
      FailsTwice unaddressed (.configuration "introspection endpoint: invalid format") ∧
      unaddressed.introspector.config.validate ≠ .ok () ∧
      FailsTwice uncredited (.configuration "no credentials") ∧
      overtaken.verdict 1 = some false ∧ writesOf served.events = writesOf overtaken.events ∧
      served.verdict 3 = some true ∧ ¬HasAsked served.events 3 := by
  refine ⟨failsTwice_of_events (by decide) rfl rfl rfl,
    failsTwice_of_events (by decide) rfl rfl rfl, by decide +kernel,
    failsTwice_of_events (by decide) rfl rfl rfl, by decide +kernel, by decide +kernel,
    by decide +kernel, ?_⟩
  have askers : served.events.filterMap Event.asker? = [0, 2, 1] := by decide +kernel
  rw [hasAsked_iff, askers]
  decide

end Chronicle

end Gateway.Introspection
