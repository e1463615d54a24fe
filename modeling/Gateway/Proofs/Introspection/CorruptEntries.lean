import Gateway.Proofs.Introspection.Failures
import Gateway.Proofs.Introspection.Fetching
import Gateway.Proofs.Introspection.SingleFlight

/-!
Entries that cannot be read. An entry that is no answer is as good as none: over the store without it
the same turns lead to the same calls, requests, writes and results, and a call that comes upon it
fetches its answer. What the call stores replaces the entry.
-/

namespace Gateway.Introspection

/-- Two stores that are the same but for the entry of a token, which cannot be read in the one and is
missing in the other. -/
structure Masked (token : String) (now : Nat) (whole part : Store) : Prop where
  others : ∀ key, key ≠ storeKey token → part.entryAt? key = whole.entryAt? key
  own : part.entryAt? (storeKey token) = whole.entryAt? (storeKey token) ∨
    part.entryAt? (storeKey token) = none ∧ Bare whole now token

namespace Masked

variable {token : String} {now : Nat} {whole part : Store}

theorem without (bare : Bare whole now token) :
    Masked token now whole (whole.without (storeKey token)) where
  others _ apart := (whole.entryAt_without ..).trans (if_neg (Ne.symm apart))
  own := .inr ⟨(whole.entryAt_without ..).trans (if_pos rfl), bare⟩

theorem wait {later : Nat} (masked : Masked token now whole part) (order : now ≤ later) :
    Masked token later whole part :=
  ⟨masked.others, masked.own.imp_right (And.imp_right (·.wait order))⟩

theorem found (masked : Masked token now whole part) (asked : String) :
    (part.get now (storeKey asked)).1.bind Claims.ofBytes? =
      (whole.get now (storeKey asked)).1.bind Claims.ofBytes? := by
  rw [Store.get_fst, Store.get_fst]
  by_cases here : asked = token
  · subst here
    rcases masked.own with same | ⟨absent, bare⟩
    · rw [Store.live_congr same]
    · rw [Store.live_of_absent absent]
      exact bare.symm
  · rw [Store.live_congr (masked.others _ (storeKey_ne here))]

theorem get (masked : Masked token now whole part) (key : String) :
    Masked token now (whole.get now key).2 (part.get now key).2 where
  others other apart := by
    by_cases here : key = other
    · subst here
      rw [Store.entryAt_get_self, Store.entryAt_get_self, masked.others key apart]
    · rw [Store.entryAt_get_of_ne here, Store.entryAt_get_of_ne here, masked.others other apart]
  own := by
    have bareStill (bare : Bare whole now token) : Bare (whole.get now key).2 now token :=
      bare.alike (Store.Alike.get _ _ _)
    by_cases here : key = storeKey token
    · subst here
      rw [Store.entryAt_get_self, Store.entryAt_get_self]
      rcases masked.own with same | ⟨absent, bare⟩
      · exact .inl (by rw [same])
      · exact .inr ⟨by rw [absent]; rfl, bareStill bare⟩
    · rw [Store.entryAt_get_of_ne here, Store.entryAt_get_of_ne here]
      exact masked.own.imp_right (And.imp_right bareStill)

theorem set (masked : Masked token now whole part) (key : String) (value : Bytes) (ttl : Int) :
    Masked token now (whole.set now key value ttl) (part.set now key value ttl) where
  others other apart := by rw [Store.entryAt_set, Store.entryAt_set, masked.others other apart]
  own := by
    rw [Store.entryAt_set, Store.entryAt_set]
    by_cases replaced : key = storeKey token ∧ 0 < ttl
    · rw [if_pos replaced, if_pos replaced]
      exact .inl rfl
    · rw [if_neg replaced, if_neg replaced]
      refine masked.own.imp_right (And.imp_right fun bare => bare.set (fun here => ?_) ..)
      exact Int.not_lt.mp fun positive => replaced ⟨here, positive⟩

end Masked

namespace World

/-- A move over another store comes to the same, and the stores stay alike but for the token. -/
def Follows (token : String) (moved shadow : World × List Event) : Prop :=
  ∃ store, shadow = (moved.1.withStore store, moved.2) ∧
    Masked token moved.1.now moved.1.store store

variable {setting : Setting} {world : World} {token : String} {store : Store} {id : CallId}
  {call : Call}

theorem consult_follows (masked : Masked token world.now world.store store) (id : CallId)
    (asked : String) (generation : Nat) :
    Follows token (world.consult id asked generation)
      ((world.withStore store).consult id asked generation) := by
  have same : ((world.withStore store).look asked).1 = (world.look asked).1 := masked.found asked
  have left := masked.get (storeKey asked)
  unfold consult
  dsimp only
  rw [same]
  cases (world.look asked).1 with
  | none => exact ⟨_, rfl, left⟩
  | some claims => exact ⟨_, rfl, left⟩

theorem ask_follows (masked : Masked token world.now world.store store) (setting : Setting)
    (id : CallId) (call : Call) (generation : Option Nat) :
    Follows token (world.ask setting id call generation)
      ((world.withStore store).ask setting id call generation) := by
  unfold World.ask
  cases setting.introspector.request call.context call.token with
  | error error => cases generation <;> exact ⟨store, rfl, masked⟩
  | ok request => exact ⟨store, rfl, masked⟩

theorem receive_follows (masked : Masked token world.now world.store store) (setting : Setting)
    (id : CallId) (call : Call) (generation : Option Nat) (reply : Reply) :
    Follows token (world.receive setting id call generation reply)
      ((world.withStore store).receive setting id call generation reply) := by
  unfold World.receive
  cases setting.introspector.judge reply with
  | error error => cases generation <;> exact ⟨store, rfl, masked⟩
  | ok answer =>
      cases generation with
      | none => exact ⟨store, rfl, masked⟩
      | some generation => exact ⟨_, rfl, masked.set ..⟩

/-- What a call does does not depend on an entry that nobody can read. -/
theorem advance_follows (masked : Masked token world.now world.store store) (setting : Setting)
    (id : CallId) :
    Follows token (world.advance setting id) ((world.withStore store).advance setting id) := by
  have still : Follows token (world, []) (world.withStore store, []) := ⟨store, rfl, masked⟩
  have calls : (world.withStore store).calls = world.calls := rfl
  have standings : (world.withStore store).standings = world.standings := rfl
  unfold advance
  rw [calls, standings]
  cases world.calls[id]? with
  | none => exact still
  | some call =>
      cases world.standings[id]? with
      | none => exact still
      | some phase =>
          cases phase with
          | starting =>
              dsimp only
              split <;> exact ⟨store, rfl, masked⟩
          | opened generation => exact ⟨store, rfl, masked⟩
          | waiting generation =>
              have table : (world.withStore store).table = world.table := rfl
              dsimp only
              rw [table]
              split
              · exact consult_follows masked id call.token generation
              · exact still
          | missed generation => exact ask_follows masked setting id call generation
          | calling generation reply => exact receive_follows masked setting id call generation reply
          | leaving generation result finish => exact ⟨store, rfl, masked⟩
          | releasing generation result finish => exact ⟨store, rfl, masked⟩
          | done result finish => exact still

/-- What is stored for good replaces what was under its key: the answer that the call returns. -/
theorem Moved.stored {after : World × List Event} {other : CallId} {write : Write}
    (moved : Moved setting world id after) (stored : .stored other write ∈ after.2)
    (positive : 0 < write.ttl) :
    after.1.store.entryAt? write.key = some ⟨write.value, write.expiresAt⟩ ∧
      ∃ claims, .returned other (.ok claims) write.time ∈ after.2 ∧
        Claims.ofBytes? write.value = some claims := by
  cases moved with
  | keep call generation reply claims bytes called stood answered =>
      have same : write = world.writeOf setting call claims bytes ∧ other = id := by
        simpa [and_comm] using stored
      obtain ⟨rfl, rfl⟩ := same
      refine ⟨?_, claims, by simp [writeOf], (Introspector.judge_eq_ok_iff.mp answered).decodes⟩
      exact Store.entryAt_set .. |>.trans (if_pos ⟨rfl, positive⟩)
  | _ => simp at stored

end World

namespace Chronicle

variable {setting : Setting} {chronicle : Chronicle} {token : String} {store : Store}

def withStore (chronicle : Chronicle) (store : Store) : Chronicle :=
  { chronicle with world := chronicle.world.withStore store }

def without (chronicle : Chronicle) (token : String) : Chronicle :=
  chronicle.withStore (chronicle.world.store.without (storeKey token))

def IsMasked (chronicle : Chronicle) (token : String) (store : Store) : Prop :=
  Masked token chronicle.world.now chronicle.world.store store

theorem step_follows (masked : chronicle.IsMasked token store) (setting : Setting) (turn : Turn) :
    ∃ after, (chronicle.withStore store).step setting turn =
        (chronicle.step setting turn).withStore after ∧
      (chronicle.step setting turn).IsMasked token after := by
  cases turn with
  | arrive call => exact ⟨store, rfl, masked⟩
  | wait millis => exact ⟨store, rfl, Masked.wait masked (Nat.le_add_right _ millis)⟩
  | go id =>
      obtain ⟨after, same, still⟩ := World.advance_follows masked setting id
      refine ⟨after, ?_, still⟩
      have moved : (chronicle.withStore store).world.advance setting id =
          ((chronicle.world.advance setting id).1.withStore after,
            (chronicle.world.advance setting id).2) := same
      simp only [step, moved]
      rfl

/-- The same turns lead to the same over stores that differ in an unreadable entry. -/
theorem play_follows (masked : chronicle.IsMasked token store) (setting : Setting)
    (turns : List Turn) :
    ∃ after, (chronicle.withStore store).play setting turns =
        (chronicle.play setting turns).withStore after ∧
      (chronicle.play setting turns).IsMasked token after := by
  induction turns generalizing chronicle store with
  | nil => exact ⟨store, rfl, masked⟩
  | cons turn turns induction =>
      obtain ⟨next, same, still⟩ := step_follows masked setting turn
      obtain ⟨after, final, last⟩ := induction still
      refine ⟨after, ?_, last⟩
      rw [← same] at final
      exact final

theorem IsBare.play {turns : List Turn} {more : List Event} (bare : chronicle.IsBare token)
    (shown : (chronicle.play setting turns).events = chronicle.events ++ more)
    (harmless : ∀ write ∈ writesOf more, write.key = storeKey token → write.ttl ≤ 0) :
    (chronicle.play setting turns).IsBare token := by
  induction turns generalizing chronicle more with
  | nil => exact bare
  | cons turn turns induction =>
      obtain ⟨first, rest, rfl, next, later⟩ := events_play_cons shown
      rw [writesOf, List.filterMap_append] at harmless
      have bareNext := bare.step next fun write member =>
        harmless write (List.mem_append_left _ member)
      exact induction bareNext later fun write member =>
        harmless write (List.mem_append_right _ member)

theorem step_stored {turn : Turn} {more : List Event} {id : CallId} {write : Write}
    (shown : (chronicle.step setting turn).events = chronicle.events ++ more)
    (stored : .stored id write ∈ more) (positive : 0 < write.ttl) :
    (chronicle.step setting turn).world.store.entryAt? write.key =
        some ⟨write.value, write.expiresAt⟩ ∧
      ∃ claims, .returned id (.ok claims) write.time ∈ more ∧
        Claims.ofBytes? write.value = some claims := by
  cases turn with
  | arrive call =>
      obtain rfl : more = [] := List.self_eq_append_right.mp shown
      exact nomatch stored
  | wait millis =>
      obtain rfl : more = [] := List.self_eq_append_right.mp shown
      exact nomatch stored
  | go mover =>
      obtain rfl : (chronicle.world.advance setting mover).2 = more := List.append_cancel_left shown
      exact (World.advance_moved setting chronicle.world mover).stored stored positive

end Chronicle

namespace State

variable {setting : Setting} {state : State} {token : String}

def without (state : State) (token : String) : State :=
  state.withStore (state.store.without (storeKey token))

/-- A corrupt entry is a miss. As long as no answer for its token is stored for good, nothing can be
read under its key, and whatever calls do side by side, in whatever order, they do over the store
without the entry: the same requests, writes, results and locks. An answer that is stored for good
replaces the entry. A call that comes upon it while no other is in progress fetches its answer as if
the entry were not there, and if it stores nothing for good, so does the next one. -/
theorem corrupt_entry_is_a_miss (setting : Setting) (state : State) (token : String) (bytes : Bytes)
    (live : state.store.live? state.now (storeKey token) = some bytes)
    (corrupt : Claims.ofBytes? bytes = none) :
    -- whatever calls go on side by side
    (∀ past turns,
      let start : Chronicle := ⟨state.toWorld, past⟩
      let reached := start.play setting turns
      ((∀ write ∈ writesOf (reached.events.drop past.length),
          write.key = storeKey token → write.ttl ≤ 0) →
        reached.IsBare token ∧
        ∀ more, ∃ store, (reached.without token).play setting more =
            (reached.play setting more).withStore store ∧
          (reached.play setting more).IsMasked token store) ∧
      ∀ turn id write, .stored id write ∈
          (reached.step setting turn).events.drop reached.events.length →
        write.key = storeKey token → 0 < write.ttl →
        (reached.step setting turn).world.store.entryAt? (storeKey token) =
            some ⟨write.value, write.expiresAt⟩ ∧
          ∃ claims, .returned id (.ok claims) write.time ∈ (reached.step setting turn).events ∧
            Claims.ofBytes? write.value = some claims) ∧
    -- a call with no other in progress
    (state.toWorld.Quiet → ∀ call : Call, call.token = token →
      let after := state.lookUp setting [call]
      let clean := (state.without token).lookUp setting [call]
      (after.phases = clean.phases ∧ after.sent = clean.sent ∧ after.writes = clean.writes) ∧
      Fetches setting state call after ∧
      ((∀ write ∈ after.writes, write.ttl ≤ 0) → ∀ millis next, next.token = token →
        Fetches setting (after.sleep millis) next ((after.sleep millis).lookUp setting [next]))) := by
  have bare : Bare state.store state.now token := by
    rw [Bare, live]
    exact corrupt
  refine ⟨fun past turns => ⟨?_, ?_⟩, ?_⟩
  · intro harmless
    obtain ⟨since, shown⟩ := Chronicle.events_play setting ⟨state.toWorld, past⟩ turns
    rw [shown, List.drop_left] at harmless
    have bareBefore : (⟨state.toWorld, past⟩ : Chronicle).IsBare token := bare
    have bareStill := bareBefore.play shown harmless
    exact ⟨bareStill, Chronicle.play_follows (Masked.without bareStill) setting⟩
  · intro turn id write stored own positive
    obtain ⟨more, shown, -⟩ := Chronicle.step_place setting
      ((⟨state.toWorld, past⟩ : Chronicle).play setting turns) turn id
    rw [shown, List.drop_left] at stored
    obtain ⟨replaced, claims, returned, decodes⟩ := Chronicle.step_stored shown stored positive
    rw [own] at replaced
    exact ⟨replaced, claims, shown ▸ List.mem_append_right _ returned, decodes⟩
  · rintro quiet call rfl
    intro after clean
    have fetches : Fetches setting state call after := lookUp_fetches quiet bare
    have cleanFetches : Fetches setting (state.without call.token) call clean := by
      have quietStill : (state.without call.token).toWorld.Quiet :=
        ⟨quiet.aligned, quiet.done, quiet.ordered, quiet.free⟩
      refine lookUp_fetches quietStill ?_
      have absent : (state.without call.token).store.live? state.now (storeKey call.token) = none :=
        Store.live_of_absent ((Store.entryAt_without ..).trans (if_pos rfl))
      exact congrArg (Option.bind · Claims.ofBytes?) absent
    refine ⟨⟨?_, ?_, ?_⟩, fetches, ?_⟩
    · exact fetches.phases.trans cleanFetches.phases.symm
    · exact fetches.sent.trans cleanFetches.sent.symm
    · exact fetches.writes.trans cleanFetches.writes.symm
    · intro harmless millis next same
      have quietAfter := sleep_quiet (lookUp_quiet quiet setting [call]).2 millis
      have bareAfter := (fetches.missing harmless).wait (Nat.le_add_right after.now millis)
      rw [← same] at bareAfter
      exact lookUp_fetches quietAfter bareAfter

def bracketed : State := { store := Store.empty.set 0 "ir:t" [0x5b] 60 }

theorem corrupt_entry_is_a_miss_for_bracket :
    let call : Call := .under "r" "t" 3
    bracketed.store.live? bracketed.now (storeKey "t") = some [0x5b] ∧
      Claims.ofBytes? [0x5b] = none ∧
      (bracketed.lookUp sharing [call]).phases =
        ((bracketed.without "t").lookUp sharing [call]).phases ∧
      (bracketed.lookUp sharing [call]).store.entryAt? (storeKey "t") =
        some ⟨[0x7b, 0x7d], 60013⟩ := by
  intro call
  have live : bracketed.store.live? bracketed.now (storeKey "t") = some [0x5b] := by
    decide +kernel
  have corrupt : Claims.ofBytes? [0x5b] = none := by
    have unread : (Claims.ofBytes? [0x5b]).isNone = true := by decide +kernel
    exact Option.isNone_iff_eq_none.mp unread
  obtain ⟨-, alone⟩ := corrupt_entry_is_a_miss sharing bracketed "t" [0x5b] live corrupt
  obtain ⟨⟨phases, -, -⟩, fetches, -⟩ := alone (World.fresh_quiet _) call rfl
  have stored : (⟨"ir:t", [0x7b, 0x7d], 60, 13⟩ : Write) ∈
      (bracketed.lookUp sharing [call]).writes := by
    decide +kernel
  exact ⟨live, corrupt, phases, (fetches.replaced _ stored (by decide)).1⟩

end State

end Gateway.Introspection
