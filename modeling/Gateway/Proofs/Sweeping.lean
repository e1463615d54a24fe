import Gateway.Proofs.TimedMap

/-!
What sweepers do while time passes. A sleep removes exactly the entries that are dead at one of the
sweeps on its way, and sleeping in two parts is sleeping once. A sweeper that was started makes its
sweeps at the multiples of its interval until it is stopped, whatever else is done with the store;
after each of them every entry that is stored dies later than that sweep.
-/

namespace Gateway.SweptStore

variable {state last : SweptStore} {target time : Nat} {key : String} {entry : StoreEntry}

theorem nextRun_eq_none_iff :
    state.nextRun target = none ↔ ∀ sweeper ∈ state.sweepers, target ≤ sweeper.next := by
  simp [nextRun, List.min?_eq_none_iff]

theorem nextRun_eq_some_iff :
    state.nextRun target = some time ↔
      (∃ sweeper ∈ state.sweepers, sweeper.next = time) ∧ time < target ∧
        ∀ sweeper ∈ state.sweepers, time ≤ sweeper.next := by
  rw [nextRun, List.min?_eq_some_iff, List.mem_filter, List.mem_map, decide_eq_true_eq, and_assoc]
  apply and_congr_right
  intro _
  apply and_congr_right
  intro before
  constructor
  · intro least sweeper member
    by_cases due : sweeper.next < target
    · apply least
      exact List.mem_filter.mpr ⟨List.mem_map_of_mem member, by simpa using due⟩
    · omega
  · intro least next member
    obtain ⟨sweeper, waiting, rfl⟩ := List.mem_map.mp (List.mem_filter.mp member).1
    exact least sweeper waiting

/-- Time runs to its target, one sweep after the other. -/
inductive Passes (target : Nat) : SweptStore → SweptStore → Prop where
  | arrive {state : SweptStore} (idle : state.nextRun target = none) :
      Passes target state { state with now := target }
  | sweep {state last : SweptStore} {time : Nat} (due : state.nextRun target = some time)
      (later : Passes target (state.sweepAt time) last) : Passes target state last

theorem Passes.unique {other : SweptStore} (first : Passes target state last)
    (second : Passes target state other) : last = other := by
  induction first with
  | arrive idle =>
      cases second with
      | arrive _ => rfl
      | sweep due _ =>
          rw [idle] at due
          contradiction
  | sweep due _ induction =>
      cases second with
      | arrive idle =>
          rw [due] at idle
          contradiction
      | sweep again later =>
          rw [due] at again
          obtain rfl := Option.some.inj again
          exact induction later

theorem Passes.trans {middle : SweptStore} {between : Nat} (first : Passes between state middle)
    (second : Passes target middle last) (onward : between ≤ target) :
    Passes target state last := by
  induction first with
  | arrive _ =>
      -- neither a sweep nor the arrival depends on the clock
      cases second with
      | arrive idle => exact .arrive idle
      | sweep due later => exact .sweep due later
  | sweep due _ induction =>
      obtain ⟨waiting, before, least⟩ := nextRun_eq_some_iff.mp due
      have still := nextRun_eq_some_iff.mpr ⟨waiting, before.trans_le onward, least⟩
      exact .sweep still (induction second)

/-- The sweepers have somewhere to go, and none of them has missed a run. -/
structure Scheduled (state : SweptStore) : Prop where
  paced : ∀ sweeper ∈ state.sweepers, 0 < sweeper.interval
  ahead : ∀ sweeper ∈ state.sweepers, state.now ≤ sweeper.next

theorem mem_sweepAt {sweeper : Sweeper} (member : sweeper ∈ (state.sweepAt time).sweepers) :
    ∃ origin ∈ state.sweepers,
      (origin.next ≤ time ∧ sweeper = origin.advance) ∨ (time < origin.next ∧ sweeper = origin) := by
  obtain ⟨origin, waiting, rfl⟩ := List.mem_map.mp member
  refine ⟨origin, waiting, ?_⟩
  by_cases due : origin.next ≤ time
  · exact .inl ⟨due, if_pos due⟩
  · exact .inr ⟨not_le.mp due, if_neg due⟩

theorem advance_mem_sweepAt {sweeper : Sweeper} (member : sweeper ∈ state.sweepers)
    (due : sweeper.next ≤ time) : sweeper.advance ∈ (state.sweepAt time).sweepers :=
  List.mem_map.mpr ⟨sweeper, member, if_pos due⟩

theorem waiting_mem_sweepAt {sweeper : Sweeper} (member : sweeper ∈ state.sweepers)
    (waiting : time < sweeper.next) : sweeper ∈ (state.sweepAt time).sweepers :=
  List.mem_map.mpr ⟨sweeper, member, if_neg (not_le.mpr waiting)⟩

/-- A sweep at the time of the first runs leaves no run at that time. -/
theorem Scheduled.behind_sweep (scheduled : state.Scheduled)
    (least : ∀ sweeper ∈ state.sweepers, time ≤ sweeper.next) :
    ∀ sweeper ∈ (state.sweepAt time).sweepers, time < sweeper.next := by
  intro sweeper member
  obtain ⟨origin, waiting, ⟨_, rfl⟩ | ⟨later, rfl⟩⟩ := mem_sweepAt member
  · have reached := least origin waiting
    have positive := scheduled.paced origin waiting
    simp only [Sweeper.advance]
    omega
  · exact later

theorem Scheduled.sweepAt (scheduled : state.Scheduled)
    (least : ∀ sweeper ∈ state.sweepers, time ≤ sweeper.next) :
    (state.sweepAt time).Scheduled where
  paced := by
    intro sweeper member
    obtain ⟨origin, waiting, ⟨_, rfl⟩ | ⟨_, rfl⟩⟩ := mem_sweepAt member
    · exact scheduled.paced origin waiting
    · exact scheduled.paced sweeper waiting
  ahead := fun sweeper member => (scheduled.behind_sweep least sweeper member).le

/-- With room for one sweep in every millisecond that is left, the fuel does not run out. -/
theorem passes_runTo (fuel : Nat) (scheduled : state.Scheduled)
    (room : ∀ sweeper ∈ state.sweepers, target < sweeper.next + fuel) :
    Passes target state (runTo fuel state target) := by
  induction fuel generalizing state with
  | zero =>
      apply Passes.arrive
      apply nextRun_eq_none_iff.mpr
      intro sweeper member
      have arrived := room sweeper member
      omega
  | succ fuel induction =>
      unfold runTo
      split
      · rename_i time due
        obtain ⟨⟨first, waiting, rfl⟩, _, least⟩ := nextRun_eq_some_iff.mp due
        apply Passes.sweep due
        apply induction (scheduled.sweepAt least)
        intro sweeper member
        have later := scheduled.behind_sweep least sweeper member
        have enough := room first waiting
        omega
      · rename_i idle
        exact .arrive idle

theorem passes_sleep (scheduled : state.Scheduled) (millis : Nat) :
    Passes (state.now + millis) state (state.sleep millis) := by
  apply passes_runTo _ scheduled
  intro sweeper member
  have ahead := scheduled.ahead sweeper member
  omega

theorem Passes.now_eq (passes : Passes target state last) : last.now = target := by
  induction passes with
  | arrive _ => rfl
  | sweep _ _ induction => exact induction

theorem Passes.scheduled (passes : Passes target state last) (scheduled : state.Scheduled) :
    last.Scheduled := by
  induction passes with
  | arrive idle => exact ⟨scheduled.paced, nextRun_eq_none_iff.mp idle⟩
  | sweep due _ induction =>
      exact induction (scheduled.sweepAt (nextRun_eq_some_iff.mp due).2.2)

def SweepsAt (state : SweptStore) (time : Nat) : Prop :=
  ∃ sweeper ∈ state.sweepers, ∃ runs, time = sweeper.next + runs * sweeper.interval

theorem sweepsAt_iff_of_nextRun {other : Nat} (due : state.nextRun target = some time) :
    state.SweepsAt other ↔ other = time ∨ (state.sweepAt time).SweepsAt other := by
  obtain ⟨⟨first, waiting, reached⟩, _, least⟩ := nextRun_eq_some_iff.mp due
  constructor
  · rintro ⟨sweeper, member, runs, rfl⟩
    by_cases here : sweeper.next ≤ time
    · have same : sweeper.next = time := Nat.le_antisymm here (least sweeper member)
      cases runs with
      | zero => exact .inl (by omega)
      | succ runs =>
          refine .inr ⟨sweeper.advance, advance_mem_sweepAt member here, runs, ?_⟩
          simp only [Sweeper.advance, Nat.add_mul]
          omega
    · exact .inr ⟨sweeper, waiting_mem_sweepAt member (not_le.mp here), runs, rfl⟩
  · rintro (rfl | ⟨sweeper, member, runs, rfl⟩)
    · exact ⟨first, waiting, 0, by omega⟩
    · obtain ⟨origin, there, ⟨_, rfl⟩ | ⟨_, rfl⟩⟩ := mem_sweepAt member
      · refine ⟨origin, there, runs + 1, ?_⟩
        simp only [Sweeper.advance, Nat.add_mul]
        omega
      · exact ⟨sweeper, there, runs, rfl⟩

/-- A sweep keeps what is alive at its time, key by key, and nothing else. -/
theorem entryAt_sweepAt (ordered : state.store.Ordered) :
    (state.sweepAt time).store.entryAt? key = some entry ↔
      state.store.entryAt? key = some entry ∧ time < entry.expiresAt := by
  have purged : (state.sweepAt time).store.entryAt? key =
      (state.store.entryAt? key).filter fun entry => entry.isLive time :=
    ordered.entryAt_purge
  rw [purged, Option.filter_eq_some_iff]
  simp [StoreEntry.isLive]

/-- What is stored when time has passed is what was stored and alive at every sweep on the way. -/
theorem Passes.entryAt_iff (passes : Passes target state last) (ordered : state.store.Ordered) :
    last.store.entryAt? key = some entry ↔
      state.store.entryAt? key = some entry ∧
        ∀ time, state.SweepsAt time → time < target → time < entry.expiresAt := by
  induction passes with
  | arrive idle =>
      have none_due := nextRun_eq_none_iff.mp idle
      constructor
      · intro stored
        refine ⟨stored, ?_⟩
        rintro time ⟨sweeper, member, runs, rfl⟩ before
        have after := none_due sweeper member
        omega
      · exact And.left
  | sweep due _ induction =>
      obtain ⟨_, before, _⟩ := nextRun_eq_some_iff.mp due
      rw [induction (ordered.purge _), entryAt_sweepAt ordered, and_assoc]
      apply and_congr_right
      intro _
      simp only [sweepsAt_iff_of_nextRun due, forall_eq_or_imp, before, forall_const]

/-- A sleep removes the entries that are dead at one of the sweeps on its way, and no others. -/
theorem entryAt_sleep (scheduled : state.Scheduled) (ordered : state.store.Ordered)
    (millis : Nat) :
    (state.sleep millis).store.entryAt? key = some entry ↔
      state.store.entryAt? key = some entry ∧
        ∀ time, state.SweepsAt time → time < state.now + millis → time < entry.expiresAt :=
  (passes_sleep scheduled millis).entryAt_iff ordered

/-- Sleeping in two parts is sleeping once, so that a run can be looked at in the middle of a
sleep. -/
theorem sleep_add (scheduled : state.Scheduled) (first second : Nat) :
    (state.sleep first).sleep second = state.sleep (first + second) := by
  have reached := passes_sleep scheduled first
  have onward := passes_sleep (reached.scheduled scheduled) second
  rw [reached.now_eq] at onward
  have whole := passes_sleep scheduled (first + second)
  rw [← Nat.add_assoc] at whole
  exact (reached.trans onward (Nat.le_add_right _ _)).unique whole

def settle (state : SweptStore) : SweptStore :=
  if state.sweepers.any (·.next ≤ state.now) then state.sweepAt state.now else state

theorem Scheduled.settle (scheduled : state.Scheduled) : state.settle.Scheduled := by
  unfold SweptStore.settle
  split
  · exact scheduled.sweepAt scheduled.ahead
  · exact scheduled

theorem ahead_settle (scheduled : state.Scheduled) :
    ∀ sweeper ∈ state.settle.sweepers, state.now < sweeper.next := by
  unfold settle
  split
  · exact scheduled.behind_sweep scheduled.ahead
  · rename_i idle
    intro sweeper member
    by_contra due
    apply idle
    exact List.any_eq_true.mpr ⟨sweeper, member, by simpa using due⟩

theorem now_settle : state.settle.now = state.now := by
  unfold settle
  split <;> rfl

theorem Scheduled.of_idle (idle : state.sweepers = []) : state.Scheduled := by
  constructor <;> simp [idle]

theorem Scheduled.act (scheduled : state.Scheduled) (act : StoreAct) :
    (state.act act).Scheduled := by
  cases act with
  | set key value ttl => exact ⟨scheduled.paced, scheduled.ahead⟩
  | get key => exact ⟨scheduled.paced, scheduled.ahead⟩
  | purge => exact ⟨scheduled.paced, scheduled.ahead⟩
  | sweep => exact scheduled.sweepAt scheduled.ahead
  | startSweeper interval =>
      simp only [SweptStore.act, startSweeper]
      split
      · exact scheduled
      · constructor
        · intro sweeper member
          rcases List.mem_append.mp member with old | new
          · exact scheduled.paced sweeper old
          · obtain rfl := List.mem_singleton.mp new
            exact Nat.pos_of_ne_zero ‹_›
        · intro sweeper member
          rcases List.mem_append.mp member with old | new
          · exact scheduled.ahead sweeper old
          · obtain rfl := List.mem_singleton.mp new
            exact Nat.le_add_right _ _
  | stopSweepers => exact .of_idle rfl
  | sleep millis => exact (passes_sleep scheduled millis).scheduled scheduled

theorem scheduled_run (start : Nat) (acts : List StoreAct) :
    ((opened start).run acts).Scheduled := by
  induction acts using List.reverseRecOn with
  | nil => exact .of_idle rfl
  | append_singleton acts act induction =>
      rw [run_append]
      exact induction.act act

/-- A sweeper that began at some time with an interval has made some rounds, and what is stored since
then dies later than the last of them. -/
structure Tended (began interval rounds : Nat) (state : SweptStore) : Prop where
  waiting : ⟨interval, began + (rounds + 1) * interval⟩ ∈ state.sweepers
  reached : began + rounds * interval ≤ state.now
  swept : 0 < rounds → ∀ key entry, state.store.entryAt? key = some entry →
    began + rounds * interval < entry.expiresAt

namespace Tended

variable {began interval rounds : Nat}

/-- A sweep is either a further round or one by somebody else. -/
theorem sweepAt (tended : Tended began interval rounds state) (ordered : state.store.Ordered)
    (onward : state.now ≤ time) (least : ∀ sweeper ∈ state.sweepers, time ≤ sweeper.next) :
    ∃ rounds, Tended began interval rounds (state.sweepAt time) := by
  have next := least _ tended.waiting
  by_cases due : began + (rounds + 1) * interval ≤ time
  · have same : time = began + (rounds + 1) * interval := Nat.le_antisymm next due
    refine ⟨rounds + 1, ?_, same.ge, ?_⟩
    · have onward : began + (rounds + 1 + 1) * interval =
          began + (rounds + 1) * interval + interval := by
        rw [Nat.add_mul (rounds + 1), Nat.one_mul, Nat.add_assoc]
      rw [onward]
      exact advance_mem_sweepAt tended.waiting due
    · intro _ key entry stored
      rw [← same]
      exact ((entryAt_sweepAt ordered).mp stored).2
  · refine ⟨rounds, waiting_mem_sweepAt tended.waiting (not_le.mp due),
      tended.reached.trans onward, ?_⟩
    intro positive key entry stored
    exact tended.swept positive key entry ((entryAt_sweepAt ordered).mp stored).1

theorem passes (tended : Tended began interval rounds state) (ordered : state.store.Ordered)
    (scheduled : state.Scheduled) (onward : state.now ≤ target)
    (passes : Passes target state last) : ∃ rounds, Tended began interval rounds last := by
  induction passes generalizing rounds with
  | arrive idle =>
      exact ⟨rounds, tended.waiting, tended.reached.trans onward, tended.swept⟩
  | sweep due _ induction =>
      obtain ⟨⟨first, waiting, reached⟩, before, least⟩ := nextRun_eq_some_iff.mp due
      have after := reached ▸ scheduled.ahead first waiting
      obtain ⟨rounds, tended⟩ := tended.sweepAt ordered after least
      exact induction tended (ordered.purge _) (scheduled.sweepAt least) before.le

/-- Nothing but stopping it gets in the way of a sweeper. -/
theorem act (tended : Tended began interval rounds state) (ordered : state.store.Ordered)
    (scheduled : state.Scheduled) {act : StoreAct} (running : act ≠ .stopSweepers) :
    ∃ rounds, Tended began interval rounds (state.act act) := by
  cases act with
  | set written value ttl =>
      refine ⟨rounds, tended.waiting, tended.reached, ?_⟩
      intro positive key entry stored
      have found := (Store.entryAt_set value ttl).symm.trans stored
      split at found
      · rename_i written
        obtain rfl := Option.some.inj found
        have reached := tended.reached
        have lives : 0 < ttl.toNat := Int.lt_toNat.mpr (by simpa using written.2)
        dsimp only
        omega
      · exact tended.swept positive key entry found
  | get read =>
      refine ⟨rounds, tended.waiting, tended.reached, ?_⟩
      intro positive key entry stored
      exact tended.swept positive key entry (Store.entry_of_get stored)
  | purge =>
      refine ⟨rounds, tended.waiting, tended.reached, ?_⟩
      intro positive key entry stored
      exact tended.swept positive key entry ((entryAt_sweepAt ordered).mp stored).1
  | sweep => exact tended.sweepAt ordered le_rfl scheduled.ahead
  | startSweeper other =>
      refine ⟨rounds, ?_, ?_, ?_⟩ <;> simp only [SweptStore.act, startSweeper] <;> split
      · exact tended.waiting
      · exact List.mem_append_left _ tended.waiting
      · exact tended.reached
      · exact tended.reached
      · exact tended.swept
      · exact tended.swept
  | stopSweepers => exact absurd rfl running
  | sleep millis =>
      exact tended.passes ordered scheduled (Nat.le_add_right _ _) (passes_sleep scheduled millis)

theorem run {acts : List StoreAct} (tended : Tended began interval rounds state)
    (ordered : state.store.Ordered) (scheduled : state.Scheduled)
    (running : .stopSweepers ∉ acts) : ∃ rounds, Tended began interval rounds (state.run acts) := by
  induction acts generalizing state rounds with
  | nil => exact ⟨rounds, tended⟩
  | cons act rest induction =>
      rw [List.mem_cons, not_or] at running
      obtain ⟨kept, later⟩ := running
      obtain ⟨rounds, tended⟩ := tended.act ordered scheduled (Ne.symm kept)
      exact induction tended (act_ordered ordered act) (scheduled.act act) later

theorem settle (tended : Tended began interval rounds state) (ordered : state.store.Ordered)
    (scheduled : state.Scheduled) : ∃ rounds, Tended began interval rounds state.settle := by
  unfold SweptStore.settle
  split
  · exact tended.sweepAt ordered le_rfl scheduled.ahead
  · exact ⟨rounds, tended⟩

theorem rounds_eq (tended : Tended began interval rounds state)
    (ahead : ∀ sweeper ∈ state.sweepers, state.now < sweeper.next) :
    rounds = (state.now - began) / interval := by
  have reached := tended.reached
  have next := ahead _ tended.waiting
  dsimp only at next
  symm
  apply Nat.div_eq_of_lt_le
  · omega
  · omega

/-- Nothing stays for an interval after its end once there has been a round. -/
theorem outlived (tended : Tended began interval rounds state) (scheduled : state.Scheduled)
    (positive : 0 < rounds) (stored : state.store.entryAt? key = some entry) :
    state.now < entry.expiresAt + interval := by
  have later := tended.swept positive key entry stored
  have next := scheduled.ahead _ tended.waiting
  simp only [Nat.add_mul, Nat.one_mul] at next
  omega

end Tended

theorem tended_startSweeper {interval : Nat} (positive : 0 < interval) :
    Tended state.now interval 0 (state.act (.startSweeper interval)) := by
  rw [act, startSweeper, if_neg (Nat.ne_of_gt positive)]
  refine ⟨?_, by simp, fun rounds => absurd rounds (Nat.lt_irrefl 0)⟩
  apply List.mem_append_right
  simp [Sweeper.start]

/-- A sweeper bounds what is kept of the dead. From the first multiple of its interval on and until it
is stopped, when the sweeps that are due have run, whatever is stored dies later than the last
multiple of the interval, at which the sweeper has swept, and nothing is stored for an interval after
its end. Sweeps take out nothing that is alive: not at their own time, and not on the way of a
sleep. Every time in the middle of a sleep is the end of a run that was cut there. -/
theorem sweeper_bounds_garbage {interval : Nat} (positive : 0 < interval) (start : Nat)
    (before after : List StoreAct) (running : .stopSweepers ∉ after) :
    let began := ((opened start).run before).now
    let state := (opened start).run (before ++ .startSweeper interval :: after)
    let lastSweep := began + (state.now - began) / interval * interval
    ⟨interval, lastSweep + interval⟩ ∈ state.settle.sweepers ∧
    (began + interval ≤ state.now → ∀ key entry, state.settle.store.entryAt? key = some entry →
      lastSweep < entry.expiresAt ∧ state.now < entry.expiresAt + interval) ∧
    (began + interval < state.now → ∀ key entry, state.store.entryAt? key = some entry →
      state.now < entry.expiresAt + interval) ∧
    (∀ time key entry, (state.sweepAt time).store.entryAt? key = some entry ↔
      state.store.entryAt? key = some entry ∧ time < entry.expiresAt) ∧
    (∀ millis key entry, (state.sleep millis).store.entryAt? key = some entry ↔
      state.store.entryAt? key = some entry ∧
        ∀ time, state.SweepsAt time → time < state.now + millis → time < entry.expiresAt) ∧
    (∀ first second, (state.sleep first).sleep second = state.sleep (first + second)) := by
  intro began state lastSweep
  have scheduled : state.Scheduled := scheduled_run start _
  have ordered : state.store.Ordered := run_ordered start _
  have ran : state = (((opened start).run before).act (.startSweeper interval)).run after := by
    simp [state, run]
  obtain ⟨rounds, tended⟩ : ∃ rounds, Tended began interval rounds state := by
    rw [ran]
    exact (tended_startSweeper positive).run (act_ordered (run_ordered start before) _)
      ((scheduled_run start before).act _) running
  obtain ⟨settledRounds, settled⟩ := tended.settle ordered scheduled
  have count : settledRounds = (state.now - began) / interval := by
    have ahead := ahead_settle scheduled
    rw [← now_settle] at ahead
    rw [settled.rounds_eq ahead, now_settle]
  have reached : lastSweep = began + settledRounds * interval := by rw [count]
  refine ⟨?_, ?_, ?_, fun _ _ _ => entryAt_sweepAt ordered,
    fun millis _ _ => entryAt_sleep scheduled ordered millis, sleep_add scheduled⟩
  · have waiting := settled.waiting
    rw [Nat.add_mul, Nat.one_mul, ← Nat.add_assoc, ← reached] at waiting
    exact waiting
  · intro begun key entry stored
    have some_rounds : 0 < settledRounds := by
      rw [count]
      apply Nat.div_pos _ positive
      omega
    have bound := settled.outlived scheduled.settle some_rounds stored
    rw [now_settle] at bound
    exact ⟨reached ▸ settled.swept some_rounds key entry stored, bound⟩
  · intro begun key entry stored
    have next := scheduled.ahead _ tended.waiting
    have some_rounds : 0 < rounds := by
      by_contra none
      obtain rfl : rounds = 0 := by omega
      dsimp only at next
      omega
    exact tended.outlived scheduled some_rounds stored

def unread : List StoreAct :=
  [.set "short" [118] 1, .set "long" [118] 60, .sleep 6000]

theorem sweeper_bounds_garbage_of_unread :
    0 < 5000 ∧ .stopSweepers ∉ unread ∧
    (((opened 0).run (.startSweeper 5000 :: unread)).settle.store.entries.map Prod.fst) = ["long"] ∧
    ∀ key entry,
      ((opened 0).run (.startSweeper 5000 :: unread)).settle.store.entryAt? key = some entry →
        5000 < entry.expiresAt ∧ 6000 < entry.expiresAt + 5000 := by
  have law := sweeper_bounds_garbage (show 0 < 5000 by decide) 0 [] unread (by decide)
  exact ⟨by decide, by decide, by decide +kernel, law.2.1 (by decide +kernel)⟩

end Gateway.SweptStore
