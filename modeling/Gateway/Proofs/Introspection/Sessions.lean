import Gateway.Proofs.Introspection.Entries
import Gateway.Proofs.Introspection.Freshness
import Gateway.Proofs.Introspection.Rounds

/-!
The program as one of the interleavings. Whatever rounds of calls and pauses come to, some list of
turns comes to as well, so that what holds under every interleaving holds of the program.
-/

namespace Gateway.Introspection

namespace World

/-- Some turns lead from one world to the other. -/
def Led (setting : Setting) (world after : World) : Prop :=
  ∃ turns : List Turn, ∀ events,
    ((⟨world, events⟩ : Chronicle).play setting turns).world = after

variable {setting : Setting} {world middle after : World} {id : CallId}

theorem Led.refl (setting : Setting) (world : World) : Led setting world world :=
  ⟨[], fun _ => rfl⟩

theorem Led.trans (first : Led setting world middle) (second : Led setting middle after) :
    Led setting world after := by
  obtain ⟨early, leadsEarly⟩ := first
  obtain ⟨late, leadsLate⟩ := second
  refine ⟨early ++ late, ?_⟩
  intro events
  have arrived := leadsEarly events
  have continued := leadsLate ((⟨world, events⟩ : Chronicle).play setting early).events
  rw [← arrived] at continued
  simpa [Chronicle.play, List.foldl_append] using continued

theorem led_arrive (setting : Setting) (world : World) (call : Call) :
    Led setting world (world.arrive call) :=
  ⟨[.arrive call], fun _ => rfl⟩

theorem led_wait (setting : Setting) (world : World) {time : Nat} (later : world.now ≤ time) :
    Led setting world { world with now := time } := by
  refine ⟨[.wait (time - world.now)], ?_⟩
  intro events
  simp [Chronicle.play, Chronicle.step, Nat.add_sub_cancel' later]

theorem Pursued.led (pursued : Pursued setting id world after) : Led setting world after := by
  induction pursued with
  | here => exact .refl setting world
  | further _ induction => exact induction.trans ⟨[.go id], fun _ => rfl⟩

end World

namespace State

variable {setting : Setting} {state : State} {store : Store}

theorem step_led (scheduled : state.Scheduled) (setting : Setting) :
    World.Led setting state.toWorld (state.step setting).toWorld := by
  unfold State.step
  split
  · exact .refl setting _
  · rename_i event rest due
    have later : state.now ≤ event.time :=
      scheduled.planned.ahead event (due ▸ List.mem_cons_self)
    obtain ⟨disciplined, _, ready⟩ := scheduled.turnTo due
    exact (World.led_wait setting state.toWorld later).trans
      (resume_pursued setting disciplined ready).led

theorem run_led (scheduled : state.Scheduled) (setting : Setting) (count : Nat) :
    World.Led setting state.toWorld (state.run setting count).toWorld := by
  induction count generalizing state with
  | zero => exact .refl setting _
  | succ count induction =>
      exact (step_led scheduled setting).trans (induction (scheduled.step setting))

theorem launch_led (scheduled : state.Scheduled) (setting : Setting) (call : Call) :
    World.Led setting state.toWorld (state.launch setting call).toWorld := by
  have enrolled : World.Led setting state.toWorld (state.enroll call).toWorld :=
    World.led_arrive setting state.toWorld call
  rw [launch_eq]
  split
  · exact enrolled.trans (scheduled.begin_pursued setting call).led
  · exact enrolled

theorem launches_led (scheduled : state.Scheduled) (setting : Setting) (calls : List Call) :
    World.Led setting state.toWorld (calls.foldl (launch setting) state).toWorld := by
  induction calls generalizing state with
  | nil => exact .refl setting _
  | cons call calls induction =>
      exact (launch_led scheduled setting call).trans (induction (scheduled.launch setting call))

/-- A round of calls is an interleaving of their moves. -/
theorem lookUp_led (quiet : state.toWorld.Quiet) (setting : Setting) (calls : List Call) :
    World.Led setting state.toWorld (state.lookUp setting calls).toWorld := by
  have prepared := (Quiet.prepare quiet).1
  have launched := (launches_scheduled prepared setting calls).1
  exact (launches_led prepared setting calls).trans (run_led launched setting _)

/-- What rounds of calls and pauses between them come to. -/
inductive Session (setting : Setting) (store : Store) : State → Prop where
  | start : Session setting store { store }
  | round {state : State} (before : Session setting store state) (calls : List Call) :
      Session setting store (state.lookUp setting calls)
  | pause {state : State} (before : Session setting store state) (millis : Nat) :
      Session setting store (state.sleep millis)

theorem Session.quiet (session : Session setting store state) : state.toWorld.Quiet := by
  induction session with
  | start => exact World.fresh_quiet store
  | round _ calls quiet => exact (lookUp_quiet quiet setting calls).2
  | pause _ millis quiet => exact sleep_quiet quiet millis

/-- A session is an interleaving of the moves of its calls. -/
theorem Session.led (session : Session setting store state) :
    World.Led setting { store } state.toWorld := by
  induction session with
  | start => exact .refl setting _
  | round before calls led => exact led.trans (lookUp_led before.quiet setting calls)
  | pause before millis led =>
      exact led.trans (World.led_wait setting _ (Nat.le_add_right _ millis))

/-- A session has a history under which its lock table is sound, and so are its answers if the store
was empty. -/
theorem Session.sound (session : Session setting store state) :
    ∃ chronicle : Chronicle, chronicle.world = state.toWorld ∧
      Chronicle.TableSound setting chronicle ∧
      (store = .empty → Chronicle.AnswersSound setting chronicle) := by
  obtain ⟨turns, leads⟩ := session.led
  refine ⟨(Chronicle.fresh store).play setting turns, leads [], ?_, ?_⟩
  · exact ((Chronicle.fresh_orderly store).play setting turns).tableSound setting
  · rintro rfl
    exact ((Chronicle.fresh_recorded setting).play turns).answersSound

end State

end Gateway.Introspection
