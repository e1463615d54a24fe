import Gateway.Introspection.Interleaving
import Gateway.Proofs.Locks
import Mathlib.Logic.Function.Basic

/-!
The lane of a token and the calls for it. `Queued` ties the holder and the line of one generation to
the places where the calls stand, `Listed` ties the generation in the table to a call that is still
going to take it out. Each operation of a lane, together with the step of its caller, keeps both,
whatever the other callers are doing.
-/

namespace Gateway.Introspection

open Function (update)

namespace Phase

/-- The generation that a call stands in line for, or has just been handed. -/
def queued? : Phase → Option Nat
  | .waiting generation => some generation
  | _ => none

/-- The generation that a call holds: it has entered and has not handed it on. -/
def held? : Phase → Option Nat
  | .missed generation => generation
  | .calling generation _ => generation
  | .leaving generation _ _ => some generation
  | .releasing generation _ _ => some generation
  | _ => none

/-- The generation that a call is still going to take out of the table. -/
def pledged? : Phase → Option Nat
  | .opened generation => some generation
  | .waiting generation => some generation
  | .missed generation => generation
  | .calling generation _ => generation
  | .leaving generation _ _ => some generation
  | _ => none

/-- The generation that a call has in hand in any way. -/
def known? : Phase → Option Nat
  | .releasing generation _ _ => some generation
  | phase => phase.pledged?

def underWay : Phase → Bool
  | .starting => false
  | .done _ _ => false
  | _ => true

theorem known_of_held {phase : Phase} {generation : Nat} (held : phase.held? = some generation) :
    phase.known? = some generation := by
  cases phase <;> simp_all [held?, known?, pledged?]

theorem known_of_pledged {phase : Phase} {generation : Nat}
    (pledged : phase.pledged? = some generation) : phase.known? = some generation := by
  cases phase <;> simp_all [known?, pledged?]

theorem under_way_of_pledged {phase : Phase} {generation : Nat}
    (pledged : phase.pledged? = some generation) : phase.underWay = true := by
  cases phase <;> simp_all [underWay, pledged?]

end Phase

/-- The lock of a generation and where the calls for its token stand. -/
structure Queued (lock : Lock) (generation : Nat) (stands : CallId → Option Phase) : Prop where
  holder_stands : ∀ id, lock.holder = some id → ∃ phase, stands id = some phase ∧
    (phase.queued? = some generation ∨ phase.held? = some generation)
  held_holds : ∀ id phase, stands id = some phase → phase.held? = some generation →
    lock.holder = some id
  queued_placed : ∀ id phase, stands id = some phase → phase.queued? = some generation →
    lock.holder = some id ∨ id ∈ lock.waiting
  line_queued : ∀ id ∈ lock.waiting, ∃ phase, stands id = some phase ∧
    phase.queued? = some generation
  line_nodup : lock.waiting.Nodup
  holder_apart : ∀ id, lock.holder = some id → id ∉ lock.waiting
  line_held : lock.holder = none → lock.waiting = []

/-- The generation in the table and the calls that are going to take it out. -/
structure Listed (lane : Lane) (stands : CallId → Option Phase) : Prop where
  known : ∀ id phase generation, stands id = some phase → phase.known? = some generation →
    generation < lane.locks.length
  pledged : ∀ generation, lane.current = some generation →
    ∃ id phase, stands id = some phase ∧ phase.pledged? = some generation
  gone : ∀ id phase generation, stands id = some phase → phase.known? = some generation →
    phase.pledged? = none → lane.current ≠ some generation

variable {lock : Lock} {lane : Lane} {stands : CallId → Option Phase} {id : CallId}
  {generation : Nat} {old new : Phase}

namespace Queued

theorem relabel (queued : Queued lock generation stands) (stood : stands id = some old)
    (sameLine : new.queued? = some generation ↔ old.queued? = some generation)
    (sameHold : new.held? = some generation ↔ old.held? = some generation) :
    Queued lock generation (update stands id (some new)) := by
  obtain ⟨holderStands, heldHolds, queuedPlaced, lineQueued, lineNodup, apart, lineHeld⟩ := queued
  refine ⟨?_, ?_, ?_, ?_, lineNodup, apart, lineHeld⟩
  · intro other holds
    obtain ⟨phase, standing, engaged⟩ := holderStands other holds
    by_cases same : other = id
    · subst same
      obtain rfl : old = phase := Option.some.inj (stood.symm.trans standing)
      exact ⟨new, Function.update_self .., by rwa [sameLine, sameHold]⟩
    · exact ⟨phase, by rwa [Function.update_of_ne same], engaged⟩
  · grind [Function.update_apply]
  · grind [Function.update_apply]
  · grind [Function.update_apply]

/-- A call that has nothing to do with this lock moves. -/
theorem bystander (queued : Queued lock generation stands) (stood : stands id = some old)
    (oldLine : old.queued? ≠ some generation) (oldHold : old.held? ≠ some generation)
    (newLine : new.queued? ≠ some generation) (newHold : new.held? ≠ some generation) :
    Queued lock generation (update stands id (some new)) :=
  queued.relabel stood (iff_of_false newLine oldLine) (iff_of_false newHold oldHold)

theorem arrive (queued : Queued lock generation stands) (absent : stands id = none) :
    Queued lock generation (update stands id (some .starting)) := by
  obtain ⟨holderStands, heldHolds, queuedPlaced, lineQueued, lineNodup, apart, lineHeld⟩ := queued
  refine ⟨?_, ?_, ?_, ?_, lineNodup, apart, lineHeld⟩
  · grind [Function.update_apply]
  · grind [Function.update_apply, Phase.held?]
  · grind [Function.update_apply, Phase.queued?]
  · grind [Function.update_apply]

theorem take (queued : Queued lock generation stands) (free : lock.holder = none) :
    Queued { lock with holder := some id } generation
      (update stands id (some (.waiting generation))) := by
  obtain ⟨holderStands, heldHolds, queuedPlaced, lineQueued, lineNodup, apart, lineHeld⟩ := queued
  have nobody := lineHeld free
  refine ⟨?_, ?_, ?_, ?_, lineNodup, ?_, ?_⟩
  · intro other holds
    obtain rfl : id = other := Option.some.inj holds
    exact ⟨_, Function.update_self .., .inl rfl⟩
  · grind [Function.update_apply, Phase.held?]
  · grind [Function.update_apply]
  · simp [nobody]
  · simp [nobody]
  · simp

theorem lineUp (queued : Queued lock generation stands)
    (stood : stands id = some (.opened generation)) (taken : lock.holder ≠ none) :
    Queued { lock with waiting := lock.waiting ++ [id] } generation
      (update stands id (some (.waiting generation))) := by
  obtain ⟨holderStands, heldHolds, queuedPlaced, lineQueued, lineNodup, apart, lineHeld⟩ := queued
  have outside : id ∉ lock.waiting := by
    intro inside
    obtain ⟨phase, standing, there⟩ := lineQueued id inside
    obtain rfl : .opened generation = phase := Option.some.inj (stood.symm.trans standing)
    simp [Phase.queued?] at there
  refine ⟨?_, ?_, ?_, ?_, ?_, ?_, ?_⟩
  · grind [Function.update_apply, Phase.queued?]
  · grind [Function.update_apply, Phase.held?]
  · grind [Function.update_apply]
  · grind [Function.update_apply, Phase.queued?]
  · exact List.nodup_append.mpr ⟨lineNodup, by simp, by grind⟩
  · grind [Phase.queued?, Phase.held?]
  · intro free
    exact absurd free taken

theorem enter (queued : Queued lock generation stands) (holds : lock.holder = some id)
    (newLine : new.queued? = none) (newHold : new.held? = some generation) :
    Queued lock generation (update stands id (some new)) := by
  obtain ⟨holderStands, heldHolds, queuedPlaced, lineQueued, lineNodup, apart, lineHeld⟩ := queued
  have outside := apart id holds
  refine ⟨?_, ?_, ?_, ?_, lineNodup, apart, lineHeld⟩
  · grind [Function.update_apply]
  · grind [Function.update_apply]
  · grind [Function.update_apply]
  · grind [Function.update_apply]

theorem free (queued : Queued lock generation stands) (stood : stands id = some old)
    (held : old.held? = some generation) (nobody : lock.waiting = [])
    (newLine : new.queued? = none) (newHold : new.held? = none) :
    Queued { holder := none, waiting := [] } generation (update stands id (some new)) := by
  have holds := queued.held_holds id old stood held
  refine ⟨by simp, ?_, ?_, by simp, by simp, by simp, by simp⟩
  · intro other phase standing heldThere
    have := queued.held_holds other phase
    grind [Function.update_apply]
  · intro other phase standing queuedThere
    have := queued.queued_placed other phase
    grind [Function.update_apply]

/-- A holder hands the lock to the first in line. -/
theorem pass {first : CallId} {rest : List CallId} (queued : Queued lock generation stands)
    (stood : stands id = some old) (held : old.held? = some generation)
    (line : lock.waiting = first :: rest) (newLine : new.queued? = none)
    (newHold : new.held? = none) :
    Queued { holder := some first, waiting := rest } generation (update stands id (some new)) := by
  obtain ⟨holderStands, heldHolds, queuedPlaced, lineQueued, lineNodup, apart, lineHeld⟩ := queued
  have holds := heldHolds id old stood held
  have outside := apart id holds
  rw [line] at lineQueued lineNodup outside
  refine ⟨?_, ?_, ?_, ?_, lineNodup.of_cons, ?_, by simp⟩
  · grind [Function.update_apply]
  · grind [Function.update_apply]
  · grind [Function.update_apply]
  · grind [Function.update_apply]
  · grind

end Queued

namespace Listed

theorem relabel (listed : Listed lane stands) (stood : stands id = some old)
    (sameKnown : new.known? = old.known?) (samePledge : new.pledged? = old.pledged?) :
    Listed lane (update stands id (some new)) := by
  have ⟨known, pledged, gone⟩ := listed
  refine ⟨?_, ?_, ?_⟩
  · grind [Function.update_apply]
  · intro generation current
    obtain ⟨other, phase, standing, pledge⟩ := pledged generation current
    by_cases same : other = id
    · subst same
      obtain rfl : old = phase := Option.some.inj (stood.symm.trans standing)
      exact ⟨other, new, Function.update_self .., by rwa [samePledge]⟩
    · exact ⟨other, phase, by rwa [Function.update_of_ne same], pledge⟩
  · grind [Function.update_apply]

/-- The pledge for the generation in the table outlives the move of a call that has not made it. -/
theorem pledge_stays (listed : Listed lane stands) (current : lane.current = some generation)
    (noPledge : ∀ phase, stands id = some phase → phase.pledged? ≠ some generation) :
    ∃ other phase, update stands id (some new) other = some phase ∧
      phase.pledged? = some generation := by
  obtain ⟨other, phase, standing, pledge⟩ := listed.pledged generation current
  have apart : other ≠ id := by
    rintro rfl
    exact noPledge phase standing pledge
  exact ⟨other, phase, by rwa [Function.update_of_ne apart], pledge⟩

theorem arrive (listed : Listed lane stands) (absent : stands id = none) :
    Listed lane (update stands id (some .starting)) := by
  have ⟨known, _, gone⟩ := listed
  refine ⟨?_, ?_, ?_⟩
  · grind [Function.update_apply, Phase.known?, Phase.pledged?]
  · intro generation current
    exact listed.pledge_stays current (by simp [absent])
  · grind [Function.update_apply, Phase.known?, Phase.pledged?]

/-- A caller gets the generation in the table, or puts a new one there. -/
theorem openLock (listed : Listed lane stands) (stood : stands id = some .starting) :
    Listed lane.openLock.2 (update stands id (some (.opened lane.openLock.1))) := by
  have ⟨known, pledged, gone⟩ := listed
  cases present : lane.current with
  | some current =>
      rw [Lane.openLock_of_current present]
      obtain ⟨other, phase, standing, pledge⟩ := pledged current present
      have bound := known other phase current standing (Phase.known_of_pledged pledge)
      refine ⟨?_, ?_, ?_⟩
      · grind [Function.update_apply, Phase.known?, Phase.pledged?]
      · intro generation here
        exact listed.pledge_stays here (by simp [stood, Phase.pledged?])
      · grind [Function.update_apply, Phase.pledged?]
  | none =>
      rw [Lane.openLock_of_none present]
      refine ⟨?_, ?_, ?_⟩
      · intro other phase generation standing knows
        have := known other phase generation
        grind [Function.update_apply, Phase.known?, Phase.pledged?]
      · rintro generation current
        obtain rfl : lane.locks.length = generation := Option.some.inj current
        exact ⟨id, _, Function.update_self .., rfl⟩
      · intro other phase generation standing knows free current
        have := known other phase generation
        grind [Function.update_apply, Phase.pledged?]

theorem ofLane {next : Lane} (listed : Listed lane stands)
    (sameCurrent : next.current = lane.current)
    (sameLength : next.locks.length = lane.locks.length) : Listed next stands := by
  have ⟨known, pledged, gone⟩ := listed
  refine ⟨?_, ?_, ?_⟩
  · rwa [sameLength]
  · rwa [sameCurrent]
  · rwa [sameCurrent]

theorem forget {result : Except GatewayError Claims} {finish : Nat} (listed : Listed lane stands)
    (stood : stands id = some (.leaving generation result finish)) :
    Listed (lane.forget generation)
      (update stands id (some (.releasing generation result finish))) := by
  have ⟨known, pledged, gone⟩ := listed
  have stays : ∀ other, (lane.forget generation).current = some other →
      lane.current = some other ∧ generation ≠ other := by
    intro other
    rw [Lane.forget_current]
    split <;> grind
  refine ⟨?_, ?_, ?_⟩
  · grind [Function.update_apply, Phase.known?, Phase.pledged?, Lane.forget_locks]
  · intro other current
    obtain ⟨present, apart⟩ := stays other current
    exact listed.pledge_stays present (by simpa [stood, Phase.pledged?] using apart)
  · intro caller phase other standing knows noPledge current
    obtain ⟨present, apart⟩ := stays other current
    grind [Function.update_apply, Phase.known?]

theorem finish {result : Except GatewayError Claims} {finish : Nat} (listed : Listed lane stands)
    (stood : stands id = some (.releasing generation result finish)) :
    Listed lane (update stands id (some (.done result finish))) := by
  have ⟨known, pledged, gone⟩ := listed
  refine ⟨?_, ?_, ?_⟩
  · grind [Function.update_apply, Phase.known?, Phase.pledged?]
  · intro other current
    exact listed.pledge_stays current (by simp [stood, Phase.pledged?])
  · grind [Function.update_apply, Phase.known?, Phase.pledged?]

end Listed

structure Tended (lane : Lane) (stands : CallId → Option Phase) : Prop where
  queued : ∀ generation, Queued (lane.lock generation) generation stands
  listed : Listed lane stands

namespace Tended

theorem relabel (tended : Tended lane stands) (stood : stands id = some old)
    (sameLine : new.queued? = old.queued?) (sameHold : new.held? = old.held?)
    (sameKnown : new.known? = old.known?) (samePledge : new.pledged? = old.pledged?) :
    Tended lane (update stands id (some new)) where
  queued generation :=
    (tended.queued generation).relabel stood (by rw [sameLine]) (by rw [sameHold])
  listed := tended.listed.relabel stood sameKnown samePledge

theorem arrive (tended : Tended lane stands) (absent : stands id = none) :
    Tended lane (update stands id (some .starting)) where
  queued generation := (tended.queued generation).arrive absent
  listed := tended.listed.arrive absent

theorem openLock (tended : Tended lane stands) (stood : stands id = some .starting) :
    Tended lane.openLock.2 (update stands id (some (.opened lane.openLock.1))) where
  queued generation := by
    rw [Lane.openLock_lock]
    exact (tended.queued generation).bystander stood (by simp [Phase.queued?])
      (by simp [Phase.held?]) (by simp [Phase.queued?]) (by simp [Phase.held?])
  listed := tended.listed.openLock stood

theorem acquire (tended : Tended lane stands) (stood : stands id = some (.opened generation)) :
    Tended (lane.acquire generation id).2 (update stands id (some (.waiting generation))) where
  queued other := by
    have known := tended.listed.known id _ generation stood rfl
    have own := tended.queued generation
    unfold Lane.acquire
    dsimp only
    split
    · rename_i free
      rw [Lane.lock_setLock known]
      split
      · rename_i same
        exact same ▸ own.take free
      · rename_i apart
        exact (tended.queued other).bystander stood (by simp [Phase.queued?])
          (by simp [Phase.held?]) (by simpa [Phase.queued?] using apart) (by simp [Phase.held?])
    · rename_i holder taken
      rw [Lane.lock_setLock known]
      split
      · rename_i same
        exact same ▸ own.lineUp stood (by simp [taken])
      · rename_i apart
        exact (tended.queued other).bystander stood (by simp [Phase.queued?])
          (by simp [Phase.held?]) (by simpa [Phase.queued?] using apart) (by simp [Phase.held?])
  listed := by
    have moved : Listed lane (update stands id (some (.waiting generation))) :=
      tended.listed.relabel stood rfl rfl
    exact moved.ofLane (Lane.acquire_current id) (Lane.acquire_length id)

theorem enter (tended : Tended lane stands) (stood : stands id = some (.waiting generation))
    (holds : (lane.lock generation).holder = some id) (newLine : new.queued? = none)
    (newHold : new.held? = some generation) (newPledge : new.pledged? = some generation) :
    Tended lane (update stands id (some new)) where
  queued other := by
    by_cases same : generation = other
    · exact same ▸ (tended.queued generation).enter holds newLine newHold
    · exact (tended.queued other).bystander stood (by simpa [Phase.queued?] using same)
        (by simp [Phase.held?]) (by simp [newLine]) (by simpa [newHold] using same)
  listed := tended.listed.relabel stood (Phase.known_of_pledged newPledge) newPledge

theorem forget {result : Except GatewayError Claims} {finish : Nat} (tended : Tended lane stands)
    (stood : stands id = some (.leaving generation result finish)) :
    Tended (lane.forget generation)
      (update stands id (some (.releasing generation result finish))) where
  queued other := by
    rw [Lane.forget_lock]
    exact (tended.queued other).relabel stood Iff.rfl Iff.rfl
  listed := tended.listed.forget stood

theorem handOver {result : Except GatewayError Claims} {finish : Nat} (tended : Tended lane stands)
    (stood : stands id = some (.releasing generation result finish)) :
    Tended (lane.handOver generation).2 (update stands id (some (.done result finish))) where
  queued other := by
    have known := tended.listed.known id _ generation stood rfl
    have own := tended.queued generation
    unfold Lane.handOver
    split
    · rename_i nobody
      rw [Lane.lock_setLock known]
      split
      · rename_i same
        exact same ▸ own.free stood rfl nobody rfl rfl
      · rename_i apart
        exact (tended.queued other).bystander stood (by simp [Phase.queued?])
          (by simpa [Phase.held?] using apart) (by simp [Phase.queued?]) (by simp [Phase.held?])
    · rename_i first rest line
      rw [Lane.lock_setLock known]
      split
      · rename_i same
        exact same ▸ own.pass stood rfl line rfl rfl
      · rename_i apart
        exact (tended.queued other).bystander stood (by simp [Phase.queued?])
          (by simpa [Phase.held?] using apart) (by simp [Phase.queued?]) (by simp [Phase.held?])
  listed := (tended.listed.finish stood).ofLane Lane.handOver_current Lane.handOver_length

end Tended

end Gateway.Introspection
