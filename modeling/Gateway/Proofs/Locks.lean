import Gateway.LockTable
import Gateway.Proofs.Maps

/-!
What the operations of a lane do to each of its locks and to the generation in the table. A
generation that is out of the table stays out: new ones are numbered behind all earlier ones.
-/

namespace Gateway

namespace Lane

variable {lane : Lane} {generation other : Nat}

@[simp]
theorem lock_setLock (known : generation < lane.locks.length) (lock : Lock) :
    (lane.setLock generation lock).lock other =
      if generation = other then lock else lane.lock other := by
  by_cases same : generation = other
  · subst same
    simp [setLock, Lane.lock, known]
  · simp [setLock, Lane.lock, List.getD_eq_getElem?_getD, List.getElem?_set_ne same, same]

@[simp]
theorem setLock_length (lock : Lock) :
    (lane.setLock generation lock).locks.length = lane.locks.length := by
  simp [setLock]

@[simp]
theorem openLock_lock (generation : Nat) :
    lane.openLock.2.lock generation = lane.lock generation := by
  unfold openLock
  split
  · rfl
  · simp only [Lane.lock, List.getD_eq_getElem?_getD]
    by_cases old : generation < lane.locks.length
    · rw [List.getElem?_append_left old]
    · rw [List.getElem?_append_right (by omega), List.getElem?_eq_none (l := lane.locks) (by omega)]
      by_cases last : generation - lane.locks.length = 0
      · simp [last]
      · rw [List.getElem?_eq_none (by simp; omega)]

@[simp]
theorem openLock_current : lane.openLock.2.current = some lane.openLock.1 := by
  unfold openLock
  split
  · assumption
  · rfl

theorem openLock_of_current (present : lane.current = some generation) :
    lane.openLock = (generation, lane) := by
  simp [openLock, present]

theorem openLock_of_none (absent : lane.current = none) :
    lane.openLock =
      (lane.locks.length, ⟨some lane.locks.length, lane.locks ++ [({} : Lock)]⟩) := by
  simp [openLock, absent]

theorem length_le_openLock : lane.locks.length ≤ lane.openLock.2.locks.length := by
  unfold openLock
  split <;> simp

@[simp]
theorem acquire_current (call : CallId) :
    (lane.acquire generation call).2.current = lane.current := by
  unfold acquire
  dsimp only
  split <;> rfl

@[simp]
theorem acquire_length (call : CallId) :
    (lane.acquire generation call).2.locks.length = lane.locks.length := by
  unfold acquire
  dsimp only
  split <;> simp

theorem acquire_taken {call : CallId} (known : generation < lane.locks.length)
    (taken : (lane.acquire generation call).1 = true) :
    ((lane.acquire generation call).2.lock generation).holder = some call := by
  unfold acquire at taken ⊢
  dsimp only at taken ⊢
  split
  · simp [known]
  · rename_i holder present
    simp [present] at taken

theorem acquire_inLine {call : CallId} (known : generation < lane.locks.length)
    (notTaken : (lane.acquire generation call).1 ≠ true) :
    call ∈ ((lane.acquire generation call).2.lock generation).waiting := by
  unfold acquire at notTaken ⊢
  dsimp only at notTaken ⊢
  split
  · rename_i free
    simp [free] at notTaken
  · simp [known]

theorem acquire_holder_of_ne {call caller : CallId} (known : generation < lane.locks.length)
    (apart : caller ≠ call) :
    ((lane.acquire generation call).2.lock other).holder = some caller ↔
      (lane.lock other).holder = some caller := by
  unfold acquire
  dsimp only
  split
  · rename_i free
    rw [lock_setLock known]
    split
    · rename_i same
      subst same
      simp [free, Ne.symm apart]
    · rfl
  · rw [lock_setLock known]
    split
    · rename_i same
      subst same
      rfl
    · rfl

theorem acquire_fst (generation : Nat) (call : CallId) :
    (lane.acquire generation call).1 = (lane.lock generation).holder.isNone := by
  unfold acquire
  dsimp only
  split <;> simp [*]

theorem acquire_waiting_of_free (call : CallId) (free : lane.lock generation = {}) :
    ((lane.acquire generation call).2.lock generation).waiting = [] := by
  have taken : (lane.acquire generation call).2 =
      lane.setLock generation { holder := some call } := by
    simp only [acquire, free]
  rw [taken]
  by_cases known : generation < lane.locks.length
  · rw [lock_setLock known, if_pos rfl]
  · have unchanged : lane.locks.set generation { holder := some call } = lane.locks :=
      List.set_eq_of_length_le (Nat.le_of_not_lt known)
    rw [setLock, unchanged]
    exact congrArg Lock.waiting free

@[simp]
theorem forget_lock (other : Nat) : (lane.forget generation).lock other = lane.lock other := by
  unfold forget
  split <;> rfl

@[simp]
theorem forget_locks : (lane.forget generation).locks = lane.locks := by
  unfold forget
  split <;> rfl

theorem forget_current :
    (lane.forget generation).current =
      if lane.current = some generation then none else lane.current := by
  unfold forget
  split <;> rfl

@[simp]
theorem handOver_current : (lane.handOver generation).2.current = lane.current := by
  unfold handOver
  split <;> rfl

@[simp]
theorem handOver_length : (lane.handOver generation).2.locks.length = lane.locks.length := by
  unfold handOver
  split <;> simp

theorem handOver_fst : (lane.handOver generation).1 = (lane.lock generation).waiting.head? := by
  unfold handOver
  split <;> simp [*]

theorem handOver_holder (known : generation < lane.locks.length) :
    ((lane.handOver generation).2.lock other).holder =
      if generation = other then (lane.lock generation).waiting.head?
      else (lane.lock other).holder := by
  unfold handOver
  split
  · rename_i line
    rw [lock_setLock known]
    split <;> simp [line]
  · rename_i first rest line
    rw [lock_setLock known]
    split <;> simp [line]

def rename (name : CallId → CallId) (lane : Lane) : Lane :=
  { lane with locks := lane.locks.map fun lock => ⟨lock.holder.map name, lock.waiting.map name⟩ }

variable {name : CallId → CallId}

@[simp]
theorem rename_current : (lane.rename name).current = lane.current := rfl

theorem rename_lock (generation : Nat) :
    (lane.rename name).lock generation =
      ⟨(lane.lock generation).holder.map name, (lane.lock generation).waiting.map name⟩ := by
  simp only [Lane.lock, rename, List.getD_eq_getElem?_getD, List.getElem?_map]
  cases lane.locks[generation]? <;> rfl

theorem rename_setLock (generation : Nat) (lock : Lock) :
    (lane.setLock generation lock).rename name =
      (lane.rename name).setLock generation ⟨lock.holder.map name, lock.waiting.map name⟩ := by
  simp [rename, setLock, List.map_set]

theorem openLock_rename :
    (lane.rename name).openLock = (lane.openLock.1, lane.openLock.2.rename name) := by
  cases present : lane.current with
  | some current =>
      rw [openLock_of_current present, openLock_of_current (rename_current.trans present)]
  | none =>
      rw [openLock_of_none present, openLock_of_none (rename_current.trans present)]
      simp [rename]

theorem acquire_rename (generation : Nat) (call : CallId) :
    (lane.rename name).acquire generation (name call) =
      ((lane.acquire generation call).1, (lane.acquire generation call).2.rename name) := by
  unfold acquire
  simp only [rename_lock]
  cases (lane.lock generation).holder with
  | none => simp [rename_setLock]
  | some holder => simp [rename_setLock]

theorem forget_rename (generation : Nat) :
    (lane.rename name).forget generation = (lane.forget generation).rename name := by
  unfold forget
  rw [rename_current]
  split <;> rfl

theorem handOver_rename (generation : Nat) :
    (lane.rename name).handOver generation =
      ((lane.handOver generation).1.map name, (lane.handOver generation).2.rename name) := by
  unfold handOver
  simp only [rename_lock]
  cases (lane.lock generation).waiting with
  | nil => simp [rename_setLock]
  | cons first rest => simp [rename_setLock]

theorem rename_free (free : ∀ generation, lane.lock generation = {}) : lane.rename name = lane := by
  have each : ∀ lock ∈ lane.locks, lock = {} := by
    intro lock member
    obtain ⟨generation, there⟩ := List.mem_iff_getElem?.mp member
    have empty := free generation
    rwa [Lane.lock, List.getD_eq_getElem?_getD, there] at empty
  have unchanged : (lane.rename name).locks = lane.locks := by
    refine (List.map_congr_left ?_).trans (List.map_id lane.locks)
    intro lock member
    rw [each lock member]
    rfl
  calc
    lane.rename name = { lane with locks := (lane.rename name).locks } := rfl
    _ = lane := by rw [unchanged]

/-- A generation that exists and is not in the table. -/
def Retired (lane : Lane) (generation : Nat) : Prop :=
  generation < lane.locks.length ∧ lane.current ≠ some generation

theorem Retired.openLock (retired : lane.Retired generation) :
    lane.openLock.2.Retired generation := by
  obtain ⟨known, absent⟩ := retired
  refine ⟨known.trans_le length_le_openLock, ?_⟩
  cases present : lane.current with
  | some current =>
      rw [openLock_of_current present]
      exact absent
  | none =>
      rw [openLock_of_none present]
      simpa using Nat.ne_of_gt known

theorem Retired.acquire (retired : lane.Retired generation) (call : CallId) :
    (lane.acquire other call).2.Retired generation := by
  simpa [Retired] using retired

theorem Retired.forget (retired : lane.Retired generation) :
    (lane.forget other).Retired generation := by
  obtain ⟨known, absent⟩ := retired
  refine ⟨by simpa using known, ?_⟩
  rw [forget_current]
  split
  · simp
  · exact absent

theorem Retired.handOver (retired : lane.Retired generation) :
    (lane.handOver other).2.Retired generation := by
  simpa [Retired] using retired

end Lane

namespace LockTable

@[simp]
theorem lane_setLane (table : LockTable) (token other : String) (lane : Lane) :
    (table.setLane token lane).lane other = if token = other then lane else table.lane other := by
  unfold LockTable.lane setLane
  rw [SortedMap.get?_insert]
  split <;> rfl

@[simp]
theorem setLane_setLane (table : LockTable) (token : String) (old new : Lane) :
    (table.setLane token old).setLane token new = table.setLane token new :=
  SortedMap.insert_insert table token old new

end LockTable

end Gateway
