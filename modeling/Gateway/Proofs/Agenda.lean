import Gateway.Agenda
import Mathlib.Data.List.Basic

/-!
Entering a thing into an agenda that is in order. The agenda stays in order and holds one thing
more; what is chosen from it, or given other names, is the same before and after.
-/

namespace Gateway.Timed

variable {Item Other : Type} {entry : Timed Item} {agenda : List (Timed Item)}

def InOrder (agenda : List (Timed Item)) : Prop :=
  agenda.Pairwise fun first second => first.time ≤ second.time

def rename (name : Item → Other) (entry : Timed Item) : Timed Other :=
  ⟨entry.time, name entry.item⟩

theorem enter_cons (entry next : Timed Item) (rest : List (Timed Item)) :
    enter entry (next :: rest) =
      if entry.time < next.time then entry :: next :: rest else next :: enter entry rest := rfl

theorem enter_perm (entry : Timed Item) (agenda : List (Timed Item)) :
    (enter entry agenda).Perm (entry :: agenda) := by
  induction agenda with
  | nil => exact .refl _
  | cons next rest induction =>
      rw [enter_cons]
      split
      · exact .refl _
      · exact (induction.cons next).trans (.swap entry next rest)

@[simp]
theorem mem_enter {other : Timed Item} :
    other ∈ enter entry agenda ↔ other = entry ∨ other ∈ agenda := by
  rw [(enter_perm entry agenda).mem_iff, List.mem_cons]

theorem enter_inOrder (ordered : InOrder agenda) : InOrder (enter entry agenda) := by
  induction agenda with
  | nil => simp [enter, InOrder]
  | cons next rest induction =>
      obtain ⟨least, tail⟩ := List.pairwise_cons.mp ordered
      rw [enter_cons]
      split
      · rename_i before
        refine List.pairwise_cons.mpr ⟨?_, ordered⟩
        intro other member
        rcases List.mem_cons.mp member with rfl | later
        · exact Nat.le_of_lt before
        · exact Nat.le_trans (Nat.le_of_lt before) (least other later)
      · rename_i notBefore
        refine List.pairwise_cons.mpr ⟨?_, induction tail⟩
        intro other member
        rcases mem_enter.mp member with rfl | later
        · exact Nat.le_of_not_lt notBefore
        · exact least other later

theorem enter_of_lt (first : ∀ other ∈ agenda, entry.time < other.time) :
    enter entry agenda = entry :: agenda := by
  cases agenda with
  | nil => rfl
  | cons next rest =>
      have before : entry.time < next.time := first next List.mem_cons_self
      rw [enter_cons, if_pos before]

theorem filter_enter_pos (ordered : InOrder agenda) {chosen : Timed Item → Bool}
    (own : chosen entry = true) :
    (enter entry agenda).filter chosen = enter entry (agenda.filter chosen) := by
  induction agenda with
  | nil => simp [enter, own]
  | cons next rest induction =>
      obtain ⟨least, tail⟩ := List.pairwise_cons.mp ordered
      by_cases before : entry.time < next.time
      · have first : ∀ other ∈ (next :: rest).filter chosen, entry.time < other.time := by
          intro other member
          rcases List.mem_cons.mp (List.mem_of_mem_filter member) with rfl | later
          · exact before
          · exact Nat.lt_of_lt_of_le before (least other later)
        rw [enter_cons, if_pos before, List.filter_cons_of_pos own, enter_of_lt first]
      · rw [enter_cons, if_neg before]
        by_cases here : chosen next = true
        · rw [List.filter_cons_of_pos here, List.filter_cons_of_pos here, induction tail,
            enter_cons, if_neg before]
        · rw [List.filter_cons_of_neg here, List.filter_cons_of_neg here, induction tail]

theorem filter_enter_neg {chosen : Timed Item → Bool} (foreign : chosen entry = false) :
    (enter entry agenda).filter chosen = agenda.filter chosen := by
  induction agenda with
  | nil => simp [enter, foreign]
  | cons next rest induction =>
      rw [enter_cons]
      split
      · rw [List.filter_cons_of_neg (by simp [foreign])]
      · rw [List.filter_cons, List.filter_cons, induction]

theorem map_rename_enter (name : Item → Other) (entry : Timed Item)
    (agenda : List (Timed Item)) :
    (enter entry agenda).map (rename name) =
      enter (rename name entry) (agenda.map (rename name)) := by
  induction agenda with
  | nil => rfl
  | cons next rest induction =>
      by_cases before : entry.time < next.time
      · simp [enter, rename, before]
      · simpa [enter, rename, before] using induction

theorem inOrder_perm (entries : List (Timed Item)) : (inOrder entries).Perm entries := by
  suffices entered : ∀ agenda : List (Timed Item),
      (entries.foldl (fun agenda entry => enter entry agenda) agenda).Perm (entries ++ agenda) by
    simpa [inOrder] using entered []
  induction entries with
  | nil => exact fun agenda => .refl agenda
  | cons first rest induction =>
      intro agenda
      have later := induction (enter first agenda)
      have entered := (enter_perm first agenda).append_left rest
      exact (later.trans entered).trans List.perm_middle

end Gateway.Timed
