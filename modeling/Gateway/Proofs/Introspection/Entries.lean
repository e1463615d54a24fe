import Gateway.Proofs.Introspection.Discipline
import Mathlib.Data.List.Perm.Subperm

/-!
The life of the entries of the lock table. `advance_lane` says once what a move can do to a lane;
from it follows that an entry leaves the table only by the hand of a call that holds its lock,
before that call hands the lock on, and that what is out of the table stays out.
-/

namespace Gateway.Introspection

namespace World

variable {setting : Setting} {world : World} {id : CallId} {token : String} {generation : Nat}

@[simp]
theorem conclude_table (world : World) (id : CallId) (held : Option Nat)
    (result : Except GatewayError Claims) :
    (world.conclude id held result).table = world.table := by
  unfold conclude
  split <;> rfl

theorem lane_setLane_setPhase (world : World) (owner token : String) (lane : Lane) (id : CallId)
    (phase : Phase) : ((world.setLane owner lane).setPhase id phase).table.lane token =
      if owner = token then lane else world.table.lane token :=
  LockTable.lane_setLane ..

inductive LaneMoved (world : World) (id : CallId) (token : String) : Lane → Prop where
  | still : LaneMoved world id token (world.table.lane token)
  | opened (stands : world.standing token id = some .starting) :
      LaneMoved world id token (world.table.lane token).openLock.2
  | joined (generation : Nat) (stands : world.standing token id = some (.opened generation)) :
      LaneMoved world id token ((world.table.lane token).acquire generation id).2
  | withdrawn (generation : Nat) (result : Except GatewayError Claims) (finish : Nat)
      (stands : world.standing token id = some (.leaving generation result finish)) :
      LaneMoved world id token ((world.table.lane token).forget generation)
  | released (generation : Nat) (result : Except GatewayError Claims) (finish : Nat)
      (stands : world.standing token id = some (.releasing generation result finish)) :
      LaneMoved world id token ((world.table.lane token).handOver generation).2

theorem advance_lane (setting : Setting) (world : World) (id : CallId) (token : String) :
    LaneMoved world id token ((world.advance setting id).1.table.lane token) := by
  have moved := advance_moved setting world id
  generalize world.advance setting id = after at moved ⊢
  cases moved with
  | still => exact .still
  | pass => exact .still
  | openLock call called stood _ =>
      rw [lane_setLane_setPhase]
      split
      · rename_i mine
        exact mine ▸ .opened (standing_eq called stood)
      · exact .still
  | joinLine call generation called stood =>
      rw [lane_setLane_setPhase]
      split
      · rename_i mine
        exact mine ▸ .joined generation (standing_eq called stood)
      · exact .still
  | hit => exact .still
  | miss => exact .still
  | refuse =>
      rw [conclude_table]
      exact .still
  | ask => exact .still
  | fail =>
      rw [conclude_table]
      exact .still
  | take => exact .still
  | keep => exact .still
  | withdraw call generation result finish called stood =>
      rw [lane_setLane_setPhase]
      split
      · rename_i mine
        exact mine ▸ .withdrawn generation result finish (standing_eq called stood)
      · exact .still
  | release call generation result finish called stood =>
      rw [lane_setLane_setPhase]
      split
      · rename_i mine
        exact mine ▸ .released generation result finish (standing_eq called stood)
      · exact .still

theorem retired_advance (retired : (world.table.lane token).Retired generation)
    (setting : Setting) (id : CallId) :
    ((world.advance setting id).1.table.lane token).Retired generation := by
  have moved := advance_lane setting world id token
  generalize (world.advance setting id).1.table.lane token = lane at moved ⊢
  cases moved with
  | still => exact retired
  | opened => exact retired.openLock
  | joined => exact retired.acquire id
  | withdrawn => exact retired.forget
  | released => exact retired.handOver

/-- An entry leaves the table only by the move of a call that is leaving this very generation. -/
theorem entry_stays_or_leaves (present : (world.table.lane token).current = some generation)
    (setting : Setting) (id : CallId) :
    ((world.advance setting id).1.table.lane token).current = some generation ∨
      ∃ result finish, world.standing token id = some (.leaving generation result finish) := by
  have moved := advance_lane setting world id token
  generalize (world.advance setting id).1.table.lane token = lane at moved ⊢
  cases moved with
  | still => exact .inl present
  | opened => exact .inl (by rwa [Lane.openLock_of_current present])
  | joined => exact .inl (by rwa [Lane.acquire_current])
  | withdrawn other result finish stands =>
      by_cases own : other = generation
      · subst own
        exact .inr ⟨result, finish, stands⟩
      · have kept : (world.table.lane token).current ≠ some other := by
          rw [present]
          exact fun equal => own (Option.some.inj equal).symm
        exact .inl (by rwa [Lane.forget_current, if_neg kept])
  | released => exact .inl (by rwa [Lane.handOver_current])

theorem retired_of_released {caller : CallId} (disciplined : world.Disciplined)
    (event : .released caller token generation ∈ (world.advance setting id).2) :
    ((world.advance setting id).1.table.lane token).Retired generation := by
  have moved := advance_moved setting world id
  generalize world.advance setting id = after at moved event ⊢
  cases moved with
  | release call left result finish called stood =>
      obtain ⟨rfl, rfl⟩ : call.token = token ∧ left = generation := by simp_all
      have listed := (disciplined.tended call.token).listed
      have stands := standing_eq called stood
      rw [lane_setLane_setPhase, if_pos rfl]
      exact Lane.Retired.handOver
        ⟨listed.known id _ left stands rfl, listed.gone id _ left stands rfl rfl⟩
  | _ => simp at event

/-- A generation has one holder: its lock names every call that holds it. -/
theorem holder_of_holds (disciplined : world.Disciplined)
    (holds : world.Holds token generation id) :
    ((world.table.lane token).lock generation).holder = some id := by
  obtain ⟨phase, stands, held | ⟨_, handed⟩⟩ := holds
  · exact ((disciplined.tended token).queued generation).held_holds id phase stands held
  · exact handed

theorem token_under_way (disciplined : world.Disciplined)
    (present : (world.table.lane token).current = some generation) :
    token ∈ world.tokensUnderWay := by
  obtain ⟨id, phase, stands, pledged⟩ := (disciplined.tended token).listed.pledged _ present
  obtain ⟨call, called, mine, stood⟩ := exists_call_of_standing stands
  have paired : (world.calls.zip world.standings)[id]? = some (call, phase) :=
    List.getElem?_zip_eq_some.mpr ⟨called, stood⟩
  refine List.mem_map.mpr ⟨(call, phase), List.mem_filter.mpr ⟨?_, ?_⟩, mine⟩
  · exact List.mem_of_getElem? paired
  · exact Phase.under_way_of_pledged pledged

theorem locked_tokens_le (disciplined : world.Disciplined) :
    world.table.lockedTokens ≤ world.tokensUnderWay.dedup.length := by
  let entries := world.table.filter fun pair => pair.2.current.isSome
  have distinct : (entries.map Prod.fst).Nodup :=
    (SortedMap.ordered_keys_nodup disciplined.ordered).sublist (List.filter_sublist.map _)
  have underWay : entries.map Prod.fst ⊆ world.tokensUnderWay.dedup := by
    intro token member
    obtain ⟨⟨key, lane⟩, inTable, rfl⟩ := List.mem_map.mp member
    obtain ⟨listed, locked⟩ := List.mem_filter.mp inTable
    obtain ⟨generation, current⟩ := Option.isSome_iff_exists.mp locked
    have same : world.table.lane key = lane := by
      simp [LockTable.lane, SortedMap.get?_of_mem disciplined.ordered listed]
    exact List.mem_dedup.mpr (token_under_way disciplined (same ▸ current))
  have counted : (entries.map Prod.fst).length ≤ world.tokensUnderWay.dedup.length :=
    (List.subperm_of_subset distinct underWay).length_le
  simpa [LockTable.lockedTokens, entries] using counted

end World

namespace Chronicle

variable {setting : Setting} {chronicle : Chronicle}

structure Orderly (chronicle : Chronicle) : Prop where
  disciplined : chronicle.world.Disciplined
  retired : ∀ id token generation, .released id token generation ∈ chronicle.events →
    (chronicle.world.table.lane token).Retired generation

theorem Orderly.step (orderly : chronicle.Orderly) (setting : Setting) (turn : Turn) :
    (chronicle.step setting turn).Orderly := by
  obtain ⟨disciplined, retired⟩ := orderly
  cases turn with
  | arrive call => exact ⟨disciplined.arrive call, retired⟩
  | wait millis => exact ⟨disciplined.congr rfl rfl rfl, retired⟩
  | go id =>
      refine ⟨disciplined.advance setting id, ?_⟩
      intro caller token generation event
      rcases List.mem_append.mp event with past | new
      · exact World.retired_advance (retired caller token generation past) setting id
      · exact World.retired_of_released disciplined new

theorem Orderly.play (orderly : chronicle.Orderly) (setting : Setting) (turns : List Turn) :
    (chronicle.play setting turns).Orderly := by
  induction turns generalizing chronicle with
  | nil => exact orderly
  | cons turn turns induction => exact induction (orderly.step setting turn)

theorem fresh_orderly (store : Store) : (fresh store).Orderly where
  disciplined := {
    aligned := rfl
    ordered := List.Pairwise.nil
    tended := fun token => {
      queued := fun generation => by
        constructor <;> simp [fresh, LockTable.lane, SortedMap.get?, Lane.lock, World.standing]
      listed := by
        constructor <;> simp [fresh, LockTable.lane, SortedMap.get?, World.standing] } }
  retired := by simp [fresh]

theorem retired_play {token : String} {generation : Nat}
    (retired : (chronicle.world.table.lane token).Retired generation) (setting : Setting)
    (turns : List Turn) :
    ((chronicle.play setting turns).world.table.lane token).Retired generation := by
  induction turns generalizing chronicle with
  | nil => exact retired
  | cons turn turns induction =>
      apply induction
      cases turn with
      | arrive call => exact retired
      | wait millis => exact retired
      | go id => exact World.retired_advance retired setting id

/-- What the lock table promises to the calls, in one state of their run. -/
structure TableSound (setting : Setting) (chronicle : Chronicle) : Prop where
  one_holder : ∀ token generation first second, chronicle.world.Holds token generation first →
    chronicle.world.Holds token generation second → first = second
  /-- A generation in the table was never released. -/
  unreleased : ∀ token generation,
    (chronicle.world.table.lane token).current = some generation →
    ∀ id, .released id token generation ∉ chronicle.events
  /-- An entry leaves the table only by a move of its own holder. -/
  removed_by_holder : ∀ token generation turn,
    (chronicle.world.table.lane token).current = some generation →
    ((chronicle.step setting turn).world.table.lane token).current = some generation ∨
      ∃ id, turn = .go id ∧ chronicle.world.Holds token generation id
  /-- A generation that was made and is not in the table never comes back. -/
  never_again : ∀ token generation, generation < (chronicle.world.table.lane token).locks.length →
    (chronicle.world.table.lane token).current ≠ some generation → ∀ turns,
    ((chronicle.play setting turns).world.table.lane token).current ≠ some generation
  /-- Without a call under way the table is empty. -/
  empty : (∀ phase ∈ chronicle.world.standings, phase.underWay = false) →
    chronicle.world.table.lockedTokens = 0
  bounded : chronicle.world.table.lockedTokens ≤ chronicle.world.tokensUnderWay.dedup.length

theorem Orderly.tableSound (orderly : chronicle.Orderly) (setting : Setting) :
    TableSound setting chronicle where
  one_holder token generation first second holdsFirst holdsSecond := by
    have firstHolder := World.holder_of_holds orderly.disciplined holdsFirst
    have secondHolder := World.holder_of_holds orderly.disciplined holdsSecond
    exact Option.some.inj (firstHolder.symm.trans secondHolder)
  unreleased token generation present id released :=
    (orderly.retired id token generation released).2 present
  removed_by_holder token generation turn present := by
    cases turn with
    | arrive call => exact .inl present
    | wait millis => exact .inl present
    | go id =>
        apply (World.entry_stays_or_leaves present setting id).imp_right
        rintro ⟨result, finish, stands⟩
        exact ⟨id, rfl, _, stands, .inl rfl⟩
  never_again token generation known absent turns :=
    (retired_play ⟨known, absent⟩ setting turns).2
  empty idle := by
    have bound := World.locked_tokens_le orderly.disciplined
    have nobody : chronicle.world.tokensUnderWay = [] := by
      simp only [World.tokensUnderWay, List.map_eq_nil_iff, List.filter_eq_nil_iff]
      intro pair member
      simp [idle pair.2 (List.of_mem_zip member).2]
    simpa [nobody] using bound
  bounded := World.locked_tokens_le orderly.disciplined

/-- Whatever calls arrive and in whatever order they and the clock move, the lock table is sound. -/
theorem lock_table_sound (setting : Setting) (store : Store) (turns : List Turn) :
    TableSound setting ((fresh store).play setting turns) :=
  ((fresh_orderly store).play setting turns).tableSound setting

end Chronicle

end Gateway.Introspection
