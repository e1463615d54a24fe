import Gateway.Proofs.Introspection.Frames
import Gateway.Proofs.Introspection.Freshness
import Mathlib.Data.List.Induction

/-!
What a run shows of one call, and what it does to the store. `step_place` says how one turn can
change the place of a call and which events it shows of it; `advance_store` says how a move can
change the store. Reads leave no trace in a store: it answers like one that saw the writes alone.
-/

namespace Gateway.Introspection

def Event.caller : Event → CallId
  | .asked id _ _ => id
  | .stored id _ => id
  | .returned id _ _ => id
  | .released id _ _ => id

/-- Who sent a request, if an event is about one. -/
def Event.asker? : Event → Option CallId
  | .asked id _ _ => some id
  | _ => none

/-- Result and time of a call that has returned. -/
def Phase.result? : Phase → Option (Except GatewayError Claims × Nat)
  | .leaving _ result finish => some (result, finish)
  | .releasing _ result finish => some (result, finish)
  | .done result finish => some (result, finish)
  | _ => none

namespace World

variable {setting : Setting} {world : World} {call : Call} {id other : CallId} {place : Option Phase}

def concluded (held : Option Nat) (result : Except GatewayError Claims) (finish : Nat) : Phase :=
  match held with
  | none => .done result finish
  | some generation => .leaving generation result finish

theorem result_concluded (held : Option Nat) (result : Except GatewayError Claims) (finish : Nat) :
    (concluded held result finish).result? = some (result, finish) := by
  cases held <;> rfl

theorem conclude_eq (held : Option Nat) (result : Except GatewayError Claims) :
    world.conclude id held result = world.setPhase id (concluded held result world.now) := by
  cases held <;> rfl

/-- The way of one call: where it stood, where it stands after a move and what the move shows. -/
inductive Stepped (setting : Setting) (world : World) (id : CallId) :
    Option Phase → Option Phase → List Event → Prop where
  | still (place : Option Phase) : Stepped setting world id place place []
  | pass (nothingKept : setting.ttl ≤ 0) :
      Stepped setting world id (some .starting) (some (.missed none)) []
  | openLock (generation : Nat) :
      Stepped setting world id (some .starting) (some (.opened generation)) []
  | joinLine (generation : Nat) :
      Stepped setting world id (some (.opened generation)) (some (.waiting generation)) []
  | hit (call : Call) (generation : Nat) (claims : Claims) (called : world.calls[id]? = some call)
      (found : (world.look call.token).1 = some claims) :
      Stepped setting world id (some (.waiting generation))
        (some (.leaving generation (.ok claims) world.now)) [.returned id (.ok claims) world.now]
  | miss (call : Call) (generation : Nat) (called : world.calls[id]? = some call)
      (absent : (world.look call.token).1 = none) :
      Stepped setting world id (some (.waiting generation)) (some (.missed (some generation))) []
  | refuse (call : Call) (held : Option Nat) (error : GatewayError)
      (called : world.calls[id]? = some call)
      (refused : setting.introspector.prepare call.token = .error error) :
      Stepped setting world id (some (.missed held)) (some (concluded held (.error error) world.now))
        [.returned id (.error error) world.now]
  | ask (held : Option Nat) (sent : Sent) (reply : Reply) :
      Stepped setting world id (some (.missed held)) (some (.calling held reply))
        [.asked id sent reply]
  | fail (held : Option Nat) (reply : Reply) (error : GatewayError) :
      Stepped setting world id (some (.calling held reply))
        (some (concluded held (.error error) world.now)) [.returned id (.error error) world.now]
  | take (reply : Reply) (claims : Claims) :
      Stepped setting world id (some (.calling none reply)) (some (.done (.ok claims) world.now))
        [.returned id (.ok claims) world.now]
  | keep (generation : Nat) (reply : Reply) (claims : Claims) (write : Write) :
      Stepped setting world id (some (.calling (some generation) reply))
        (some (.leaving generation (.ok claims) world.now))
        [.stored id write, .returned id (.ok claims) world.now]
  | withdraw (generation : Nat) (result : Except GatewayError Claims) (finish : Nat) :
      Stepped setting world id (some (.leaving generation result finish))
        (some (.releasing generation result finish)) []
  | release (call : Call) (generation : Nat) (result : Except GatewayError Claims) (finish : Nat)
      (called : world.calls[id]? = some call) :
      Stepped setting world id (some (.releasing generation result finish))
        (some (.done result finish)) [.released id call.token generation]

theorem Stepped.setPhase {old new : Phase} {events : List Event} {after : World}
    (way : Stepped setting world id (some old) (some new) events)
    (stood : world.standings[id]? = some old) (same : after.standings = world.standings) :
    Stepped setting world id world.standings[id]? (after.setPhase id new).standings[id]? events := by
  obtain ⟨bound, _⟩ := List.getElem?_eq_some_iff.mp stood
  have stands : (after.setPhase id new).standings[id]? = some new := by
    simp [World.setPhase, same, bound]
  rw [stood, stands]
  exact way

theorem advance_stepped (setting : Setting) (world : World) (id : CallId) :
    Stepped setting world id world.standings[id]? (world.advance setting id).1.standings[id]?
      (world.advance setting id).2 := by
  have moved := advance_moved setting world id
  generalize world.advance setting id = after at moved ⊢
  cases moved with
  | still => exact .still _
  | pass call called stood nothingKept => exact (Stepped.pass nothingKept).setPhase stood rfl
  | openLock call called stood _ => exact (Stepped.openLock _).setPhase stood rfl
  | joinLine call generation called stood =>
      exact (Stepped.joinLine generation).setPhase stood rfl
  | hit call generation claims called stood _ found =>
      exact (Stepped.hit call generation claims called found).setPhase stood rfl
  | miss call generation called stood _ absent =>
      exact (Stepped.miss call generation called absent).setPhase stood rfl
  | refuse call held error called stood refused =>
      rw [conclude_eq]
      exact (Stepped.refuse call held error called refused).setPhase stood rfl
  | ask call held request called stood _ => exact (Stepped.ask held _ _).setPhase stood rfl
  | fail call held reply error called stood _ =>
      rw [conclude_eq]
      exact (Stepped.fail held reply error).setPhase stood rfl
  | take call reply claims bytes called stood _ =>
      exact (Stepped.take reply claims).setPhase stood rfl
  | keep call generation reply claims bytes called stood _ =>
      exact (Stepped.keep generation reply claims _).setPhase stood rfl
  | withdraw call generation result finish called stood =>
      exact (Stepped.withdraw generation result finish).setPhase stood rfl
  | release call generation result finish called stood =>
      exact (Stepped.release call generation result finish called).setPhase stood rfl

theorem advance_of_absent (absent : world.calls[id]? = none) :
    world.advance setting id = (world, []) := by
  simp [advance, absent]

theorem standings_advance_of_ne (apart : other ≠ id) :
    (world.advance setting id).1.standings[other]? = world.standings[other]? := by
  cases called : world.calls[id]? with
  | none => rw [advance_of_absent called]
  | some call => exact (advance_confined setting called).others other apart

theorem calls_advance : (world.advance setting id).1.calls = world.calls := by
  cases called : world.calls[id]? with
  | none => rw [advance_of_absent called]
  | some call => exact (advance_confined setting called).calls

theorem now_advance (setting : Setting) (world : World) (id : CallId) :
    (world.advance setting id).1.now = world.now := by
  cases called : world.calls[id]? with
  | none => rw [advance_of_absent called]
  | some call => exact (advance_confined setting called).now

theorem Stepped.caller {old new : Option Phase} {events : List Event}
    (way : Stepped setting world id old new events) : ∀ event ∈ events, event.caller = id := by
  cases way <;> simp [Event.caller]

/-- What a move does to the store: nothing, a read, or one write that it shows. -/
inductive Handled (world : World) (id : CallId) : Store → List Event → Prop where
  | alone (events : List Event) (noWrite : events.filterMap Event.write? = []) :
      Handled world id world.store events
  | read (key : String) (events : List Event) (noWrite : events.filterMap Event.write? = []) :
      Handled world id (world.store.get world.now key).2 events
  | wrote (write : Write) (result : Except GatewayError Claims) (present : write.time = world.now) :
      Handled world id (world.store.set write.time write.key write.value write.ttl)
        [.stored id write, .returned id result world.now]

theorem advance_handled (setting : Setting) (world : World) (id : CallId) :
    Handled world id (world.advance setting id).1.store (world.advance setting id).2 := by
  have moved := advance_moved setting world id
  generalize world.advance setting id = after at moved ⊢
  cases moved with
  | hit => exact .read _ _ rfl
  | miss => exact .read _ _ rfl
  | keep => exact .wrote _ _ rfl
  | refuse =>
      rw [conclude_eq]
      exact .alone _ rfl
  | fail =>
      rw [conclude_eq]
      exact .alone _ rfl
  | _ => exact .alone _ rfl

end World

def replay (store : Store) (writes : List Write) : Store :=
  writes.foldl (fun store write => store.set write.time write.key write.value write.ttl) store

def writesOf (events : List Event) : List Write := events.filterMap Event.write?

/-- A store holds no answer for a token that could be read now. -/
def Bare (store : Store) (now : Nat) (token : String) : Prop :=
  (store.live? now (storeKey token)).bind Claims.ofBytes? = none

section

variable {setting : Setting} {world : World} {store after : Store} {now later : Nat}
  {token : String} {id : CallId} {events : List Event}

theorem bare_iff_look : (world.look token).1 = none ↔ Bare world.store world.now token := by
  rw [World.look, Store.get_fst, Bare]

theorem Bare.wait (bare : Bare store now token) (order : now ≤ later) : Bare store later token := by
  unfold Bare
  cases live : store.live? later (storeKey token) with
  | none => rfl
  | some value =>
      rw [Bare, Store.live_earlier live order] at bare
      exact bare

theorem Bare.alike (bare : Bare store now token) (alike : Store.Alike now after store) :
    Bare after now token := by
  unfold Bare
  rw [alike _ now (Nat.le_refl now)]
  exact bare

theorem Bare.set {key : String} {ttl : Int} (bare : Bare store now token)
    (harmless : key = storeKey token → ttl ≤ 0) (time : Nat) (value : Bytes) :
    Bare (store.set time key value ttl) now token := by
  have kept : (store.set time key value ttl).live? now (storeKey token) =
      store.live? now (storeKey token) := by
    apply Store.live_congr
    rw [Store.entryAt_set, if_neg]
    rintro ⟨here, positive⟩
    exact Int.not_lt.mpr (harmless here) positive
  rw [Bare, kept]
  exact bare

theorem World.Handled.bare (handled : World.Handled world id after events)
    (bare : Bare world.store world.now token)
    (harmless : ∀ write ∈ writesOf events, write.key = storeKey token → write.ttl ≤ 0) :
    Bare after world.now token := by
  cases handled with
  | alone => exact bare
  | read key => exact bare.alike (Store.Alike.get _ _ _)
  | wrote write => exact bare.set (harmless write (by simp [writesOf, Event.write?])) ..

/-- A store answers like one that saw nothing but the writes. -/
theorem World.Handled.alike {start : Store} {past : List Event}
    (handled : World.Handled world id after events)
    (alike : Store.Alike world.now world.store (replay start (writesOf past))) :
    Store.Alike world.now after (replay start (writesOf (past ++ events))) := by
  rw [writesOf, List.filterMap_append, replay, List.foldl_append]
  cases handled with
  | alone _ noWrite =>
      rw [noWrite]
      exact alike
  | read key _ noWrite =>
      rw [noWrite]
      exact (Store.Alike.get _ _ _).trans alike
  | wrote write result present =>
      rw [present]
      exact present ▸ alike.set write.value write.ttl

end

namespace Chronicle

variable {setting : Setting} {chronicle : Chronicle} {id : CallId} {turn : Turn}

def place (chronicle : Chronicle) (id : CallId) : Option Phase := chronicle.world.standings[id]?

theorem play_append (setting : Setting) (chronicle : Chronicle) (first second : List Turn) :
    chronicle.play setting (first ++ second) = (chronicle.play setting first).play setting second :=
  List.foldl_append

/-- What one turn means for a call: it makes a move, or it stays where it is and the events are
about others. -/
theorem step_place (setting : Setting) (chronicle : Chronicle) (turn : Turn) (id : CallId) :
    ∃ more, (chronicle.step setting turn).events = chronicle.events ++ more ∧
      (((∀ event ∈ more, event.caller ≠ id) ∧
          ((chronicle.step setting turn).place id = chronicle.place id ∨
            chronicle.place id = none ∧ (chronicle.step setting turn).place id = some .starting)) ∨
        turn = .go id ∧ World.Stepped setting chronicle.world id (chronicle.place id)
          ((chronicle.step setting turn).place id) more) := by
  cases turn with
  | arrive call =>
      refine ⟨[], by simp [step], .inl ⟨by simp, ?_⟩⟩
      rcases Nat.lt_trichotomy id chronicle.world.standings.length with old | new | absent
      · left
        exact List.getElem?_append_left old
      · right
        simp [place, step, World.arrive, new]
      · left
        have beyond : chronicle.world.standings.length + 1 ≤ id := absent
        simp only [place, step, World.arrive]
        rw [List.getElem?_eq_none (Nat.le_of_lt absent), List.getElem?_eq_none (by simpa using beyond)]
  | wait millis => exact ⟨[], by simp [step], .inl ⟨by simp, .inl rfl⟩⟩
  | go mover =>
      refine ⟨(chronicle.world.advance setting mover).2, rfl, ?_⟩
      have way := World.advance_stepped setting chronicle.world mover
      by_cases same : mover = id
      · subst same
        exact .inr ⟨rfl, way⟩
      · left
        refine ⟨fun event shown => ?_, .inl ?_⟩
        · rw [way.caller event shown]
          exact same
        · exact World.standings_advance_of_ne (Ne.symm same)

theorem step_calls {call : Call} (called : chronicle.world.calls[id]? = some call) :
    (chronicle.step setting turn).world.calls[id]? = some call := by
  cases turn with
  | arrive arrived => exact getElem_append_call arrived called
  | wait millis => exact called
  | go mover => exact (congrArg (·[id]?) World.calls_advance).trans called

theorem play_calls {call : Call} (called : chronicle.world.calls[id]? = some call)
    (turns : List Turn) : (chronicle.play setting turns).world.calls[id]? = some call := by
  induction turns generalizing chronicle with
  | nil => exact called
  | cons turn turns induction => exact induction (step_calls called)

def IsBare (chronicle : Chronicle) (token : String) : Prop :=
  Bare chronicle.world.store chronicle.world.now token

theorem IsBare.step {token : String} {more : List Event} (bare : chronicle.IsBare token)
    (shown : (chronicle.step setting turn).events = chronicle.events ++ more)
    (harmless : ∀ write ∈ writesOf more, write.key = storeKey token → write.ttl ≤ 0) :
    (chronicle.step setting turn).IsBare token := by
  cases turn with
  | arrive call => exact bare
  | wait millis => exact Bare.wait bare (Nat.le_add_right _ millis)
  | go mover =>
      obtain rfl : (chronicle.world.advance setting mover).2 = more := List.append_cancel_left shown
      have after := (World.advance_handled setting chronicle.world mover).bare bare harmless
      rw [← World.now_advance setting _ mover] at after
      exact after

/-- After any run the store answers every read as if nothing but the writes had taken place. -/
theorem play_alike (setting : Setting) (store : Store) (turns : List Turn) :
    Store.Alike ((fresh store).play setting turns).world.now
      ((fresh store).play setting turns).world.store
      (replay store (writesOf ((fresh store).play setting turns).events)) := by
  -- on the last turn, as its writes are the last ones to be replayed
  induction turns using List.reverseRecOn with
  | nil => exact .refl _ _
  | append_singleton turns turn induction =>
      rw [play_append]
      generalize (fresh store).play setting turns = chronicle at induction ⊢
      cases turn with
      | arrive call => exact induction
      | wait millis => exact induction.wait (Nat.le_add_right _ millis)
      | go mover =>
          have after := (World.advance_handled setting chronicle.world mover).alike induction
          rw [← World.now_advance setting _ mover] at after
          exact after

end Chronicle

end Gateway.Introspection
