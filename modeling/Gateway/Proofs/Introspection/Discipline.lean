import Gateway.Proofs.Introspection.Lanes
import Gateway.Proofs.Introspection.Moves
import Mathlib.Data.List.Dedup

/-!
The lock table under every interleaving. One move of a call keeps the lanes of all tokens in order,
hence every run does: a generation has one holder, an entry of the table leaves it only through a
holder that has not handed it on, never comes back, and stands for a call that is under way.
-/

namespace Gateway.Introspection

open Function (update)

namespace World

variable {setting : Setting} {world : World} {call : Call} {id : CallId} {old new : Phase}
  {token : String}

def standing (world : World) (token : String) (id : CallId) : Option Phase :=
  match world.calls[id]? with
  | some call => if call.token = token then world.standings[id]? else none
  | none => none

/-- A call has entered a generation and not handed it on, or it was just handed it. -/
def Holds (world : World) (token : String) (generation : Nat) (id : CallId) : Prop :=
  ∃ phase, world.standing token id = some phase ∧ (phase.held? = some generation ∨
    phase.queued? = some generation ∧ ((world.table.lane token).lock generation).holder = some id)

def tokensUnderWay (world : World) : List String :=
  ((world.calls.zip world.standings).filter fun pair => pair.2.underWay).map fun pair =>
    pair.1.token

structure Disciplined (world : World) : Prop where
  aligned : world.calls.length = world.standings.length
  ordered : SortedMap.Ordered world.table
  tended : ∀ token, Tended (world.table.lane token) (world.standing token)

theorem standing_eq (called : world.calls[id]? = some call)
    (stood : world.standings[id]? = some old) : world.standing call.token id = some old := by
  simp [standing, called, stood]

theorem exists_call_of_standing {phase : Phase} (stands : world.standing token id = some phase) :
    ∃ call, world.calls[id]? = some call ∧ call.token = token ∧
      world.standings[id]? = some phase := by
  unfold standing at stands
  split at stands
  · rename_i call called
    split at stands
    · rename_i same
      exact ⟨call, called, same, stands⟩
    · cases stands
  · cases stands

theorem standing_setPhase (called : world.calls[id]? = some call)
    (stood : world.standings[id]? = some old) (token : String) :
    (world.setPhase id new).standing token =
      if call.token = token then update (world.standing token) id (some new)
      else world.standing token := by
  have bound : id < world.standings.length := (List.getElem?_eq_some_iff.mp stood).1
  funext other
  by_cases same : other = id
  · subst same
    by_cases mine : call.token = token
    · simp [standing, setPhase, called, mine, bound]
    · simp [standing, setPhase, called, mine]
  · have apart : id ≠ other := fun equal => same equal.symm
    by_cases mine : call.token = token
    · rw [if_pos mine, Function.update_of_ne same]
      simp only [standing, setPhase, List.getElem?_set_ne apart]
    · rw [if_neg mine]
      simp only [standing, setPhase, List.getElem?_set_ne apart]

theorem standing_arrive (aligned : world.calls.length = world.standings.length) (token : String) :
    (world.arrive call).standing token =
      if call.token = token then update (world.standing token) world.calls.length (some .starting)
      else world.standing token := by
  funext other
  rcases Nat.lt_trichotomy other world.calls.length with before | last | behind
  · have apart : other ≠ world.calls.length := before.ne
    have kept : (world.arrive call).standing token other = world.standing token other := by
      simp only [standing, arrive]
      rw [List.getElem?_append_left before, List.getElem?_append_left (aligned ▸ before)]
    rw [kept]
    split
    · rw [Function.update_of_ne apart]
    · rfl
  · subst last
    by_cases mine : call.token = token
    · simp [standing, arrive, mine, aligned]
    · simp [standing, arrive, mine]
  · have apart : other ≠ world.calls.length := behind.ne'
    have absent : (world.calls ++ [call])[other]? = none :=
      List.getElem?_eq_none (by simp; omega)
    have before : world.calls[other]? = none := List.getElem?_eq_none (by omega)
    split
    · rw [Function.update_of_ne apart]
      simp [standing, arrive, absent, before]
    · simp [standing, arrive, absent, before]

namespace Disciplined

/-- The store, the clock and the requests play no part. -/
theorem congr {other : World} (disciplined : world.Disciplined) (calls : other.calls = world.calls)
    (standings : other.standings = world.standings) (table : other.table = world.table) :
    other.Disciplined := by
  obtain ⟨aligned, ordered, tended⟩ := disciplined
  have same : other.standing = world.standing := by
    funext token id
    simp [standing, calls, standings]
  exact ⟨by rw [calls, standings, aligned], by rwa [table], by rwa [table, same]⟩

theorem move (disciplined : world.Disciplined) (called : world.calls[id]? = some call)
    (stood : world.standings[id]? = some old)
    (moved : Tended (world.table.lane call.token)
      (update (world.standing call.token) id (some new))) :
    (world.setPhase id new).Disciplined where
  aligned := by simpa [setPhase] using disciplined.aligned
  ordered := disciplined.ordered
  tended token := by
    rw [standing_setPhase called stood]
    split
    · rename_i mine
      exact mine ▸ moved
    · exact disciplined.tended token

theorem moveLane {lane : Lane} (disciplined : world.Disciplined)
    (called : world.calls[id]? = some call) (stood : world.standings[id]? = some old)
    (moved : Tended lane (update (world.standing call.token) id (some new))) :
    ((world.setLane call.token lane).setPhase id new).Disciplined where
  aligned := by simpa [setPhase, setLane] using disciplined.aligned
  ordered := SortedMap.insert_ordered disciplined.ordered _ _
  tended token := by
    have stands : ((world.setLane call.token lane).setPhase id new).standing token =
        (world.setPhase id new).standing token := rfl
    have lanes : ((world.setLane call.token lane).setPhase id new).table.lane token =
        if call.token = token then lane else world.table.lane token :=
      LockTable.lane_setLane ..
    rw [stands, lanes, standing_setPhase called stood]
    split
    · rename_i mine
      exact mine ▸ moved
    · exact disciplined.tended token

theorem arrive (disciplined : world.Disciplined) (call : Call) :
    (world.arrive call).Disciplined where
  aligned := by simp [World.arrive, disciplined.aligned]
  ordered := disciplined.ordered
  tended token := by
    rw [standing_arrive disciplined.aligned]
    split
    · have absent : world.standing token world.calls.length = none := by simp [standing]
      exact (disciplined.tended token).arrive absent
    · exact disciplined.tended token

theorem relabel (disciplined : world.Disciplined) (called : world.calls[id]? = some call)
    (stood : world.standings[id]? = some old) (sameLine : new.queued? = old.queued?)
    (sameHold : new.held? = old.held?) (sameKnown : new.known? = old.known?)
    (samePledge : new.pledged? = old.pledged?) : (world.setPhase id new).Disciplined :=
  disciplined.move called stood ((disciplined.tended call.token).relabel
    (standing_eq called stood) sameLine sameHold sameKnown samePledge)

/-- A call gets its result while it still has its lock to leave, if it has one. -/
theorem conclude {generation : Option Nat} {result : Except GatewayError Claims}
    (disciplined : world.Disciplined) (called : world.calls[id]? = some call)
    (stood : world.standings[id]? = some old) (notQueued : old.queued? = none)
    (holds : old.held? = generation) (knows : old.known? = generation)
    (pledges : old.pledged? = generation) :
    (world.conclude id generation result).Disciplined := by
  subst holds
  unfold World.conclude
  split
  · rename_i nothing
    exact disciplined.relabel called stood notQueued.symm nothing.symm (knows.trans nothing).symm
      (pledges.trans nothing).symm
  · rename_i generation held
    exact disciplined.relabel called stood notQueued.symm held.symm (knows.trans held).symm
      (pledges.trans held).symm

theorem enter {generation : Nat} (disciplined : world.Disciplined)
    (called : world.calls[id]? = some call)
    (stood : world.standings[id]? = some (.waiting generation))
    (holds : ((world.table.lane call.token).lock generation).holder = some id)
    (newLine : new.queued? = none) (newHold : new.held? = some generation)
    (newPledge : new.pledged? = some generation) :
    ((world.look call.token).2.setPhase id new).Disciplined := by
  have read : (world.look call.token).2.Disciplined := disciplined.congr rfl rfl rfl
  exact read.move called stood ((read.tended call.token).enter (standing_eq called stood) holds
    newLine newHold newPledge)

/-- Whatever a call does next, the calls and the table stay in order. -/
theorem advance (disciplined : world.Disciplined) (setting : Setting) (id : CallId) :
    (world.advance setting id).1.Disciplined := by
  have moved := advance_moved setting world id
  generalize world.advance setting id = after at moved ⊢
  cases moved with
  | still => exact disciplined
  | pass call called stood _ => exact disciplined.relabel called stood rfl rfl rfl rfl
  | openLock call called stood _ =>
      exact disciplined.moveLane called stood
        ((disciplined.tended call.token).openLock (standing_eq called stood))
  | joinLine call generation called stood =>
      exact disciplined.moveLane called stood
        ((disciplined.tended call.token).acquire (standing_eq called stood))
  | hit call generation claims called stood holds _ =>
      exact disciplined.enter called stood holds rfl rfl rfl
  | miss call generation called stood holds _ =>
      exact disciplined.enter called stood holds rfl rfl rfl
  | refuse call generation error called stood _ =>
      exact disciplined.conclude called stood rfl rfl rfl rfl
  | ask call generation request called stood _ =>
      have sent : (world.send (world.sending call.token request)).Disciplined :=
        disciplined.congr rfl rfl rfl
      exact sent.relabel called stood rfl rfl rfl rfl
  | fail call generation reply error called stood _ =>
      exact disciplined.conclude called stood rfl rfl rfl rfl
  | take call reply claims bytes called stood _ =>
      exact disciplined.conclude called stood rfl rfl rfl rfl
  | keep call generation reply claims bytes called stood _ =>
      have kept : (world.keep (world.writeOf setting call claims bytes)).Disciplined :=
        disciplined.congr rfl rfl rfl
      exact kept.conclude called stood rfl rfl rfl rfl
  | withdraw call generation result finish called stood =>
      exact disciplined.moveLane called stood
        ((disciplined.tended call.token).forget (standing_eq called stood))
  | release call generation result finish called stood =>
      exact disciplined.moveLane called stood
        ((disciplined.tended call.token).handOver (standing_eq called stood))

end Disciplined

end World

end Gateway.Introspection
