import Gateway.Proofs.Maps
import Gateway.Store

/-!
The store seen entry by entry. Reading a key changes nothing but a dead entry under that key, and
setting a value changes nothing but the entry under its key.
-/

namespace Gateway.Store

variable {store : Store} {now : Nat} {key other : String} {entry : StoreEntry}

def entryAt? (store : Store) (key : String) : Option StoreEntry :=
  store.entries.get? key

@[simp]
theorem empty_entryAt (key : String) : Store.empty.entryAt? key = none := rfl

theorem get_fst (store : Store) (now : Nat) (key : String) :
    (store.get now key).1 = store.live? now key := by
  unfold Store.get live?
  split
  · split <;> rfl
  · rfl

theorem live_eq_some {value : Bytes} (live : store.live? now key = some value) :
    ∃ entry, store.entryAt? key = some entry ∧ now < entry.expiresAt ∧ entry.value = value := by
  unfold live? at live
  split at live
  · rename_i entry present
    by_cases alive : now < entry.expiresAt
    · rw [if_pos (by simpa [StoreEntry.isLive] using alive)] at live
      exact ⟨entry, present, alive, Option.some.inj live⟩
    · rw [if_neg (by simpa [StoreEntry.isLive] using alive)] at live
      cases live
  · cases live

theorem live_of_entry (present : store.entryAt? key = some entry) (alive : now < entry.expiresAt) :
    store.live? now key = some entry.value := by
  unfold live?
  rw [entryAt?] at present
  simp [present, StoreEntry.isLive, alive]

theorem live_none_later {later : Nat} (absent : store.live? now key = none) (after : now ≤ later) :
    store.live? later key = none := by
  cases live : store.live? later key with
  | none => rfl
  | some value =>
      obtain ⟨entry, present, alive, _⟩ := live_eq_some live
      rw [live_of_entry present (after.trans_lt alive)] at absent
      cases absent

theorem live_congr {left right : Store} (same : left.entryAt? key = right.entryAt? key) :
    left.live? now key = right.live? now key := by
  unfold live?
  rw [entryAt?, entryAt?] at same
  rw [same]

/-- That a dead entry has been dropped shows in no later read. -/
theorem live_of_filtered {swept : Store} {later : Nat}
    (filtered : swept.entryAt? key = (store.entryAt? key).filter fun entry => entry.isLive now)
    (after : now ≤ later) : swept.live? later key = store.live? later key := by
  unfold live?
  rw [entryAt?, entryAt?] at filtered
  rw [filtered]
  cases store.entries.get? key with
  | none => rfl
  | some entry =>
      rw [Option.filter_some]
      by_cases alive : entry.isLive now = true
      · rw [if_pos alive]
      · have dead : ¬entry.isLive later = true := by
          simp only [StoreEntry.isLive, decide_eq_true_eq] at alive ⊢
          omega
        rw [if_neg alive]
        simp [dead]

theorem entryAt_get_of_ne (different : key ≠ other) :
    (store.get now key).2.entryAt? other = store.entryAt? other := by
  unfold Store.get
  split
  · split
    · rfl
    · simp [entryAt?, SortedMap.get?_erase, different]
  · rfl

/-- After a key was read, what is under it is what was there if that is alive. -/
theorem entryAt_get_self :
    (store.get now key).2.entryAt? key =
      (store.entryAt? key).filter fun entry => entry.isLive now := by
  unfold Store.get entryAt?
  split
  · rename_i entry present
    split
    · rename_i alive
      rw [present, Option.filter_some, if_pos alive]
    · rename_i dead
      rw [present, Option.filter_some, if_neg dead, SortedMap.get?_erase, if_pos rfl]
  · rename_i absent
    simp [absent]

theorem entry_of_get (present : (store.get now key).2.entryAt? other = some entry) :
    store.entryAt? other = some entry := by
  by_cases same : key = other
  · subst same
    rw [entryAt_get_self, Option.filter_eq_some_iff] at present
    exact present.1
  · rwa [entryAt_get_of_ne same] at present

theorem entryAt_set (value : Bytes) (ttl : Int) :
    (store.set now key value ttl).entryAt? other =
      if key = other ∧ 0 < ttl then some ⟨value, now + ttl.toNat * 1000⟩
      else store.entryAt? other := by
  unfold Store.set entryAt?
  by_cases kept : ttl ≤ 0
  · simp [kept]
  · rw [if_neg kept]
    simp only [SortedMap.get?_insert]
    by_cases same : key = other <;> simp [same, not_le.mp kept]

def without (store : Store) (key : String) : Store := ⟨store.entries.erase key⟩

theorem entryAt_without (store : Store) (key other : String) :
    (store.without key).entryAt? other = if key = other then none else store.entryAt? other :=
  SortedMap.get?_erase ..

theorem live_of_absent (absent : store.entryAt? key = none) : store.live? now key = none := by
  rw [entryAt?] at absent
  rw [live?, absent]

theorem live_earlier {later : Nat} {value : Bytes} (live : store.live? later key = some value)
    (after : now ≤ later) : store.live? now key = some value := by
  obtain ⟨entry, present, alive, rfl⟩ := live_eq_some live
  exact live_of_entry present (Nat.lt_of_le_of_lt after alive)

/-- Two stores that answer every read alike from some time on. -/
def Alike (now : Nat) (left right : Store) : Prop :=
  ∀ key later, now ≤ later → left.live? later key = right.live? later key

namespace Alike

variable {left middle right : Store}

theorem refl (now : Nat) (store : Store) : Alike now store store := fun _ _ _ => rfl

theorem trans (first : Alike now left middle) (second : Alike now middle right) :
    Alike now left right :=
  fun key later after => (first key later after).trans (second key later after)

theorem wait {later : Nat} (alike : Alike now left right) (after : now ≤ later) :
    Alike later left right :=
  fun key last behind => alike key last (Nat.le_trans after behind)

theorem get (store : Store) (now : Nat) (key : String) : Alike now (store.get now key).2 store := by
  intro other later after
  by_cases same : key = other
  · subst same
    exact live_of_filtered entryAt_get_self after
  · exact live_congr (entryAt_get_of_ne same)

theorem set (alike : Alike now left right) (value : Bytes) (ttl : Int) :
    Alike now (left.set now key value ttl) (right.set now key value ttl) := by
  intro other later after
  by_cases replaced : key = other ∧ 0 < ttl
  · apply live_congr
    rw [entryAt_set, entryAt_set, if_pos replaced, if_pos replaced]
  · have kept (store : Store) :
        (store.set now key value ttl).live? later other = store.live? later other := by
      apply live_congr
      rw [entryAt_set, if_neg replaced]
    rw [kept, kept]
    exact alike other later after

end Alike

/-- The keys ascend, so that no key has two entries. -/
def Ordered (store : Store) : Prop := SortedMap.Ordered store.entries

namespace Ordered

theorem empty : Store.empty.Ordered := List.Pairwise.nil

theorem set (ordered : store.Ordered) (now : Nat) (key : String) (value : Bytes) (ttl : Int) :
    (store.set now key value ttl).Ordered := by
  unfold Store.set
  split
  · exact ordered
  · exact SortedMap.insert_ordered ordered ..

theorem get (ordered : store.Ordered) (now : Nat) (key : String) :
    (store.get now key).2.Ordered := by
  unfold Store.get
  split
  · split
    · exact ordered
    · exact SortedMap.filter_ordered ordered _
  · exact ordered

theorem purge (ordered : store.Ordered) (now : Nat) : (store.purge now).Ordered :=
  SortedMap.filter_ordered ordered _

theorem entryAt_purge (ordered : store.Ordered) :
    (store.purge now).entryAt? key =
      (store.entryAt? key).filter fun entry => entry.isLive now :=
  SortedMap.get?_filter_pair ordered (fun pair => pair.2.isLive now) key

theorem alike_purge (ordered : store.Ordered) : Alike now (store.purge now) store :=
  fun _ _ after => live_of_filtered ordered.entryAt_purge after

end Ordered

theorem purgeCount_eq (store : Store) (now : Nat) :
    store.purgeCount now = store.entries.countP fun pair => pair.2.expiresAt ≤ now := by
  have split := store.entries.length_eq_countP_add_countP fun pair => pair.2.isLive now
  have kept : (store.purge now).size = store.entries.countP fun pair => pair.2.isLive now :=
    List.countP_eq_length_filter.symm
  have dead : (store.entries.countP fun pair => ¬pair.2.isLive now) =
      store.entries.countP fun pair => pair.2.expiresAt ≤ now := by
    apply List.countP_congr
    intro pair _
    simp [StoreEntry.isLive]
  rw [purgeCount, kept, size, split]
  omega

end Gateway.Store
