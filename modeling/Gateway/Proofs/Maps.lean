import Gateway.SortedMap
import Mathlib.Data.List.Induction
import Mathlib.Data.List.Nodup
import Mathlib.Data.String.Basic

/-!
A list whose keys differ finds every entry under its key. Sorted maps are seen through `get?`:
inserting twice under one key is inserting the second value, choosing or erasing keys touches no
other key, and the keys of a map that is built by insertions stay in ascending order, so that
membership and `get?` say the same.
-/

namespace Gateway

theorem find?_key {Item Key : Type} [DecidableEq Key] {key : Item → Key} {items : List Item}
    {item : Item} (distinct : (items.map key).Nodup) (member : item ∈ items) :
    items.find? (fun other => key other = key item) = some item := by
  cases found : items.find? (fun other => key other = key item) with
  | none =>
      have apart := List.find?_eq_none.mp found item member
      simp at apart
  | some first =>
      have same : key first = key item := by simpa using List.find?_some found
      rw [List.inj_on_of_nodup_map distinct (List.mem_of_find?_eq_some found) member same]

namespace SortedMap

variable {Value : Type}

def Ordered (map : SortedMap Value) : Prop :=
  map.Pairwise fun left right => left.1 < right.1

theorem insert_insert (map : SortedMap Value) (key : String) (old new : Value) :
    insert key new (insert key old map) = insert key new map := by
  induction map with
  | nil => simp [insert]
  | cons pair rest induction =>
      obtain ⟨present, value⟩ := pair
      by_cases before : key < present
      · simp [insert, before]
      · by_cases same : key = present
        · simp [insert, same]
        · simp [insert, before, same, induction]

/-- A map that is built by insertions has the last value of every key. -/
theorem get?_ofList (pairs : List (String × Value)) (key : String) :
    get? (ofList pairs) key = (pairs.reverse.find? fun pair => pair.1 = key).map Prod.snd := by
  induction pairs using List.reverseRecOn with
  | nil => rfl
  | append_singleton front pair induction =>
      rw [ofList, List.foldl_append, List.foldl_cons, List.foldl_nil, ← ofList, get?_insert,
        List.reverse_concat, List.find?_cons, induction]
      by_cases same : pair.1 = key <;> simp [same]

theorem get?_filter (map : SortedMap Value) (chosen : String → Bool) (key : String) :
    get? (map.filter fun pair => chosen pair.1) key =
      if chosen key then get? map key else none := by
  induction map with
  | nil => simp [get?]
  | cons pair rest induction =>
      obtain ⟨present, value⟩ := pair
      by_cases kept : chosen present = true
      · rw [List.filter_cons_of_pos (by exact kept)]
        by_cases found : present = key
        · subst found
          simp [get?, kept]
        · simpa [get?, found] using induction
      · rw [List.filter_cons_of_neg (by exact kept), induction]
        by_cases found : present = key
        · subst found
          simp [kept]
        · simp [get?, found]

theorem get?_erase (map : SortedMap Value) (key other : String) :
    get? (erase map key) other = if key = other then none else get? map other := by
  have filtered := get?_filter map (fun present => decide (present ≠ key)) other
  by_cases same : key = other
  · simpa [erase, same] using filtered
  · simpa [erase, same, Ne.symm same] using filtered

theorem mem_insert {map : SortedMap Value} {key : String} {value : Value} {pair : String × Value}
    (member : pair ∈ insert key value map) : pair = (key, value) ∨ pair ∈ map := by
  induction map with
  | nil => simpa [insert] using member
  | cons head rest induction =>
      obtain ⟨present, old⟩ := head
      unfold insert at member
      split at member
      · simpa using member
      · split at member
        · rcases List.mem_cons.mp member with new | kept
          · exact .inl new
          · exact .inr (List.mem_cons_of_mem _ kept)
        · rcases List.mem_cons.mp member with first | later
          · exact .inr (first ▸ List.mem_cons_self)
          · exact (induction later).imp_right (List.mem_cons_of_mem _)

theorem insert_ordered {map : SortedMap Value} (ordered : Ordered map) (key : String)
    (value : Value) : Ordered (insert key value map) := by
  induction map with
  | nil => simp [insert, Ordered]
  | cons head rest induction =>
      obtain ⟨present, old⟩ := head
      obtain ⟨least, tail⟩ := List.pairwise_cons.mp ordered
      unfold insert
      split
      · rename_i before
        refine List.pairwise_cons.mpr ⟨?_, ordered⟩
        intro pair member
        rcases List.mem_cons.mp member with first | later
        · rw [first]
          exact before
        · exact before.trans (least pair later)
      · rename_i notBefore
        split
        · rename_i same
          exact List.pairwise_cons.mpr ⟨same ▸ least, tail⟩
        · rename_i different
          have after : present < key := lt_of_le_of_ne (not_lt.mp notBefore) (Ne.symm different)
          refine List.pairwise_cons.mpr ⟨?_, induction tail⟩
          intro pair member
          rcases mem_insert member with new | kept
          · rw [new]
            exact after
          · exact least pair kept

theorem get?_of_mem {map : SortedMap Value} (ordered : Ordered map) {key : String} {value : Value}
    (member : (key, value) ∈ map) : get? map key = some value := by
  induction map with
  | nil => simp at member
  | cons head rest induction =>
      obtain ⟨present, old⟩ := head
      obtain ⟨least, tail⟩ := List.pairwise_cons.mp ordered
      rcases List.mem_cons.mp member with first | later
      · obtain ⟨rfl, rfl⟩ := Prod.mk.injEq .. ▸ first
        simp [get?]
      · have apart : ¬present = key := (least _ later).ne
        simpa [get?, apart] using induction tail later

theorem get?_filter_pair {map : SortedMap Value} (ordered : Ordered map)
    (chosen : String × Value → Bool) (key : String) :
    get? (map.filter chosen) key = (get? map key).filter fun value => chosen (key, value) := by
  induction map with
  | nil => rfl
  | cons head rest induction =>
      obtain ⟨present, value⟩ := head
      obtain ⟨least, tail⟩ := List.pairwise_cons.mp ordered
      by_cases found : present = key
      · subst found
        have absent : get? (rest.filter chosen) present = none := by
          simp only [get?, Option.map_eq_none_iff, List.find?_eq_none]
          intro pair member
          simpa using (least pair (List.mem_of_mem_filter member)).ne'
        have first : get? ((present, value) :: rest) present = some value := by simp [get?]
        rw [first, Option.filter_some]
        by_cases kept : chosen (present, value) = true
        · simp [get?, kept]
        · rw [List.filter_cons_of_neg kept, absent, if_neg kept]
      · have behind : get? ((present, value) :: rest) key = get? rest key := by simp [get?, found]
        rw [behind, ← induction tail]
        by_cases kept : chosen (present, value) = true
        · rw [List.filter_cons_of_pos kept]
          simp [get?, found]
        · rw [List.filter_cons_of_neg kept]

theorem filter_ordered {map : SortedMap Value} (ordered : Ordered map)
    (chosen : String × Value → Bool) : Ordered (map.filter chosen) :=
  ordered.sublist List.filter_sublist

theorem ordered_keys_nodup {map : SortedMap Value} (ordered : Ordered map) :
    (map.map Prod.fst).Nodup :=
  List.pairwise_map.mpr (ordered.imp fun less => less.ne)

end SortedMap

end Gateway
