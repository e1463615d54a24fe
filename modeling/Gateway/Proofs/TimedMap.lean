import Gateway.Proofs.Store
import Mathlib.Data.List.Induction

/-!
A store under a running clock is a map whose values die at their time. What a read returns is
settled by the writes and the clock alone: reads, purges and sweeps take out nothing but dead
entries, and whether they took place shows in no answer.
-/

namespace Gateway

inductive StoreAct where
  | set (key : String) (value : Bytes) (ttl : Int)
  | get (key : String)
  | purge
  /-- A sweep at any time, besides those that sweepers make while time passes. -/
  | sweep
  | startSweeper (interval : Nat)
  | stopSweepers
  | sleep (millis : Nat)
  deriving DecidableEq, Repr

namespace StoreAct

def millis : StoreAct → Nat
  | sleep millis => millis
  | _ => 0

def Stores (key : String) : StoreAct → Prop
  | set written _ ttl => written = key ∧ 0 < ttl
  | _ => False

/-- Acts that neither write nor take time. -/
def isUpkeep : StoreAct → Bool
  | set .. => false
  | sleep _ => false
  | _ => true

def elapsed : List StoreAct → Nat
  | [] => 0
  | act :: rest => act.millis + elapsed rest

theorem elapsed_append (before after : List StoreAct) :
    elapsed (before ++ after) = elapsed before + elapsed after := by
  induction before with
  | nil => simp [elapsed]
  | cons act rest induction => simp [elapsed, induction, Nat.add_assoc]

/-- The last value stored under a key, with the time at which it dies when the clock began at
`start`. -/
def LastStored (start : Nat) (acts : List StoreAct) (key : String) (value : Bytes)
    (deadline : Nat) : Prop :=
  ∃ before ttl after, acts = before ++ set key value ttl :: after ∧ 0 < ttl ∧
    (∀ act ∈ after, ¬act.Stores key) ∧ deadline = start + elapsed before + ttl.toNat * 1000

variable {start deadline : Nat} {acts : List StoreAct} {act : StoreAct} {key : String}
  {value : Bytes}

theorem lastStored_append (unstored : ¬act.Stores key) :
    LastStored start (acts ++ [act]) key value deadline ↔
      LastStored start acts key value deadline := by
  constructor
  · rintro ⟨before, ttl, after, split, positive, silent, died⟩
    rcases List.eq_nil_or_concat after with rfl | ⟨front, last, rfl⟩
    · -- the last write would be the act itself
      have same := (List.append_inj' split rfl).2
      obtain rfl := List.singleton_inj.mp same
      exact absurd ⟨rfl, positive⟩ unstored
    · rw [List.concat_eq_append, ← List.cons_append, ← List.append_assoc] at split
      refine ⟨before, ttl, front, (List.append_inj' split rfl).1, positive, ?_, died⟩
      intro other member
      exact silent other (by simp [member])
  · rintro ⟨before, ttl, after, rfl, positive, silent, died⟩
    refine ⟨before, ttl, after ++ [act], by simp, positive, ?_, died⟩
    intro other member
    rcases List.mem_append.mp member with earlier | last
    · exact silent other earlier
    · exact List.mem_singleton.mp last ▸ unstored

theorem lastStored_set {written : Bytes} {ttl : Int} (positive : 0 < ttl) :
    LastStored start (acts ++ [set key written ttl]) key value deadline ↔
      value = written ∧ deadline = start + elapsed acts + ttl.toNat * 1000 := by
  constructor
  · rintro ⟨before, other, after, split, _, silent, rfl⟩
    rcases List.eq_nil_or_concat after with rfl | ⟨front, last, rfl⟩
    · obtain ⟨rfl, same⟩ := List.append_inj' split rfl
      cases same
      exact ⟨rfl, rfl⟩
    · rw [List.concat_eq_append, ← List.cons_append, ← List.append_assoc] at split
      have same := List.singleton_inj.mp (List.append_inj' split rfl).2
      exact absurd ⟨rfl, positive⟩ (silent (set key written ttl) (by simp [same]))
  · rintro ⟨rfl, rfl⟩
    exact ⟨acts, ttl, [], by simp, positive, by simp, rfl⟩

theorem elapsed_filter (acts : List StoreAct) :
    elapsed (acts.filter fun act => !act.isUpkeep) = elapsed acts := by
  induction acts with
  | nil => rfl
  | cons act rest induction => cases act <;> simpa [isUpkeep, elapsed, millis] using induction

/-- What was stored last is settled by the writes and by the time that acts take. -/
theorem lastStored_filter (acts : List StoreAct) :
    LastStored start (acts.filter fun act => !act.isUpkeep) key value deadline ↔
      LastStored start acts key value deadline := by
  induction acts using List.reverseRecOn with
  | nil => rfl
  | append_singleton acts act induction =>
      rw [List.filter_append]
      by_cases upkeep : act.isUpkeep = true
      · have silent : ¬act.Stores key := by
          cases act <;> simp_all [Stores, isUpkeep]
        rw [lastStored_append silent, ← induction]
        simp [upkeep]
      · have kept : [act].filter (fun act => !act.isUpkeep) = [act] := by simpa using upkeep
        rw [kept]
        by_cases stored : act.Stores key
        · cases act with
          | set written fresh ttl =>
              obtain ⟨rfl, positive⟩ := stored
              rw [lastStored_set positive, lastStored_set positive, elapsed_filter]
          | _ => exact stored.elim
        · rw [lastStored_append stored, lastStored_append stored, induction]

end StoreAct

namespace SweptStore

def act (state : SweptStore) : StoreAct → SweptStore
  | .set key value ttl => state.set key value ttl
  | .get key => (state.get key).2
  | .purge => state.purge
  | .sweep => state.sweepAt state.now
  | .startSweeper interval => state.startSweeper interval
  | .stopSweepers => state.stopSweepers
  | .sleep millis => state.sleep millis

def run (state : SweptStore) (acts : List StoreAct) : SweptStore :=
  acts.foldl act state

def opened (start : Nat) : SweptStore := ⟨start, .empty, []⟩

theorem run_append (state : SweptStore) (acts : List StoreAct) (last : StoreAct) :
    state.run (acts ++ [last]) = (state.run acts).act last := by
  simp [run]

variable {state : SweptStore} {key : String} {value : Bytes}

theorem get_fst (state : SweptStore) (key : String) :
    (state.get key).1 = state.store.live? state.now key :=
  Store.get_fst state.store state.now key

theorem runTo_kept (fuel : Nat) (ordered : state.store.Ordered) (target : Nat) :
    (runTo fuel state target).now = target ∧ (runTo fuel state target).store.Ordered ∧
      Store.Alike target (runTo fuel state target).store state.store := by
  induction fuel generalizing state with
  | zero => exact ⟨rfl, ordered, Store.Alike.refl target state.store⟩
  | succ fuel induction =>
      unfold runTo
      split
      · rename_i time due
        have earlier : time < target := by
          have member := List.min?_mem due
          simpa using (List.mem_filter.mp member).2
        obtain ⟨arrived, keys, alike⟩ := @induction (state.sweepAt time) (ordered.purge time)
        exact ⟨arrived, keys, alike.trans (ordered.alike_purge.wait earlier.le)⟩
      · exact ⟨rfl, ordered, Store.Alike.refl target state.store⟩

theorem now_act (ordered : state.store.Ordered) (act : StoreAct) :
    (state.act act).now = state.now + act.millis := by
  cases act with
  | startSweeper interval =>
      simp only [SweptStore.act, startSweeper]
      split <;> rfl
  | sleep millis => exact (runTo_kept _ ordered _).1
  | _ => rfl

theorem act_ordered (ordered : state.store.Ordered) (act : StoreAct) :
    (state.act act).store.Ordered := by
  cases act with
  | set key value ttl => exact ordered.set ..
  | get key => exact ordered.get ..
  | purge => exact ordered.purge _
  | sweep => exact ordered.purge _
  | startSweeper interval =>
      simp only [SweptStore.act, startSweeper]
      split <;> exact ordered
  | stopSweepers => exact ordered
  | sleep millis => exact (runTo_kept _ ordered _).2.1

/-- Only a write shows in what is read later, and only under its key. -/
theorem live_act (ordered : state.store.Ordered) {act : StoreAct} (unstored : ¬act.Stores key)
    {later : Nat} (after : (state.act act).now ≤ later) :
    (state.act act).store.live? later key = state.store.live? later key := by
  cases act with
  | set written value ttl =>
      apply Store.live_congr
      exact (Store.entryAt_set value ttl).trans (if_neg unstored)
  | get read => exact Store.Alike.get state.store state.now read key later after
  | purge => exact ordered.alike_purge key later after
  | sweep => exact ordered.alike_purge key later after
  | startSweeper interval =>
      simp only [SweptStore.act, startSweeper]
      split <;> rfl
  | stopSweepers => rfl
  | sleep millis =>
      rw [now_act ordered] at after
      exact (runTo_kept _ ordered _).2.2 key later after

variable {start : Nat} {acts : List StoreAct}

theorem run_ordered (start : Nat) (acts : List StoreAct) :
    ((opened start).run acts).store.Ordered := by
  induction acts using List.reverseRecOn with
  | nil => exact Store.Ordered.empty
  | append_singleton acts act induction =>
      rw [run_append]
      exact act_ordered induction act

theorem run_now (start : Nat) (acts : List StoreAct) :
    ((opened start).run acts).now = start + StoreAct.elapsed acts := by
  induction acts using List.reverseRecOn with
  | nil => rfl
  | append_singleton acts act induction =>
      rw [run_append, now_act (run_ordered start acts), induction, StoreAct.elapsed_append]
      simp [StoreAct.elapsed, Nat.add_assoc]

/-- From its end on, a run holds what was stored last, until that dies. -/
theorem live_run {later : Nat} (after : ((opened start).run acts).now ≤ later) :
    ((opened start).run acts).store.live? later key = some value ↔
      ∃ deadline, StoreAct.LastStored start acts key value deadline ∧ later < deadline := by
  -- on the acts from the last one: a write settles its key, anything else leaves what was there
  induction acts using List.reverseRecOn with
  | nil =>
      constructor
      · intro live
        cases live
      · rintro ⟨deadline, ⟨before, ttl, rest, split, _⟩, _⟩
        simp at split
  | append_singleton acts act induction =>
      have ordered := run_ordered start acts
      rw [run_append] at after ⊢
      by_cases stored : act.Stores key
      · cases act with
        | set written fresh ttl =>
            obtain ⟨rfl, positive⟩ := stored
            have written : (((opened start).run acts).act (.set written fresh ttl)).store.entryAt?
                written = some ⟨fresh, start + StoreAct.elapsed acts + ttl.toNat * 1000⟩ := by
              rw [← run_now start acts]
              exact (Store.entryAt_set fresh ttl).trans (if_pos ⟨rfl, positive⟩)
            simp only [StoreAct.lastStored_set positive]
            constructor
            · intro live
              obtain ⟨entry, present, alive, rfl⟩ := Store.live_eq_some live
              cases Option.some.inj (written.symm.trans present)
              exact ⟨_, ⟨rfl, rfl⟩, alive⟩
            · rintro ⟨_, ⟨rfl, rfl⟩, alive⟩
              exact Store.live_of_entry written alive
        | _ => exact stored.elim
      · have earlier : ((opened start).run acts).now ≤ later := by
          rw [now_act ordered] at after
          omega
        rw [live_act ordered stored after, induction earlier]
        simp only [StoreAct.lastStored_append stored]

/-- A store refines a map whose values die. A read returns a value just as long as the last write
of its key that had some time to live still has some of it left. Writes without time to live change
nothing, and reads, purges and sweeps can be put in or left out without a trace. No key is there
twice, and a purge takes out what has died, key by key, and counts it. -/
theorem refines_timed_map (start : Nat) (acts : List StoreAct) :
    let state := (opened start).run acts
    (∀ key value, (state.get key).1 = some value ↔
      ∃ before ttl after, acts = before ++ .set key value ttl :: after ∧ 0 < ttl ∧
        (∀ act ∈ after, ¬act.Stores key) ∧
        StoreAct.elapsed acts < StoreAct.elapsed before + ttl.toNat * 1000) ∧
    (∀ key value ttl, ttl ≤ 0 → state.set key value ttl = state) ∧
    (∀ others : List StoreAct,
      (others.filter fun act => !act.isUpkeep) = (acts.filter fun act => !act.isUpkeep) →
      ∀ key, (((opened start).run others).get key).1 = (state.get key).1) ∧
    (state.store.entries.map Prod.fst).Nodup ∧
    (∀ key entry, state.purge.store.entryAt? key = some entry ↔
      state.store.entryAt? key = some entry ∧ state.now < entry.expiresAt) ∧
    state.store.purgeCount state.now =
      state.store.entries.countP (fun pair => pair.2.expiresAt ≤ state.now) := by
  intro state
  have ordered : state.store.Ordered := run_ordered start acts
  have reads (history : List StoreAct) (key : String) (value : Bytes) :
      (((opened start).run history).get key).1 = some value ↔
        ∃ deadline, StoreAct.LastStored start history key value deadline ∧
          start + StoreAct.elapsed history < deadline := by
    rw [get_fst, live_run (Nat.le_refl _), run_now]
  refine ⟨?_, ?_, ?_, SortedMap.ordered_keys_nodup ordered, ?_, Store.purgeCount_eq ..⟩
  · intro key value
    rw [reads]
    constructor
    · rintro ⟨deadline, ⟨before, ttl, after, split, positive, silent, rfl⟩, alive⟩
      exact ⟨before, ttl, after, split, positive, silent, by omega⟩
    · rintro ⟨before, ttl, after, split, positive, silent, alive⟩
      exact ⟨_, ⟨before, ttl, after, split, positive, silent, rfl⟩, by omega⟩
  · intro key value ttl dead
    simp [set, Store.set, dead]
  · intro others same key
    apply Option.ext
    intro value
    -- neither the writes nor the time that has passed know of upkeep
    rw [reads others, reads acts, ← StoreAct.elapsed_filter others, ← StoreAct.elapsed_filter acts]
    simp only [← StoreAct.lastStored_filter others, ← StoreAct.lastStored_filter acts, same]
  · intro key entry
    have purged : state.purge.store.entryAt? key =
        (state.store.entryAt? key).filter fun entry => entry.isLive state.now :=
      ordered.entryAt_purge
    rw [purged, Option.filter_eq_some_iff]
    simp [StoreEntry.isLive]

end SweptStore

end Gateway
