import Gateway.Http.HeaderMap
import Gateway.Proofs.Maps

/-!
Header fields seen through the values of each name. Writing or removing a name touches the values of
no other name; a removed name has none left, although the last entry moves into its place.
-/

namespace Gateway.HeaderMap

variable {headers : HeaderMap} {name other : HeaderName} {entry : HeaderEntry}

theorem entry_eq_some_iff :
    headers.entry? name = some entry ↔ entry ∈ headers.entries ∧ entry.name = name := by
  constructor
  · intro found
    have named := List.find?_some found
    exact ⟨List.mem_of_find?_eq_some found, by simpa using named⟩
  · rintro ⟨member, rfl⟩
    exact find?_key headers.distinct member

theorem entry_eq_none_iff : headers.entry? name = none ↔ name ∉ headers.names := by
  unfold entry?
  simp [names]

theorem getAll_of_entry (found : headers.entry? name = some entry) :
    headers.getAll name = entry.values := by
  simp [getAll, found]

theorem toList_eq (headers : HeaderMap) :
    headers.toList =
      headers.names.flatMap fun name => (headers.getAll name).map fun value => (name, value) := by
  rw [toList, names, List.flatMap_map]
  apply List.flatMap_congr
  intro entry member
  rw [getAll_of_entry (entry_eq_some_iff.mpr ⟨member, rfl⟩)]

theorem getAll_eq_nil_iff : headers.getAll name = [] ↔ name ∉ headers.names := by
  rw [← entry_eq_none_iff]
  cases found : headers.entry? name with
  | none => simp [getAll, found]
  | some entry => simp [getAll, found, HeaderEntry.values]

theorem getAll_congr {left right : HeaderMap} (same : left.entry? name = right.entry? name) :
    left.getAll name = right.getAll name := by
  simp only [getAll, same]

section

variable {change : HeaderEntry → HeaderEntry} {new : HeaderEntry}
  (keeps : ∀ entry, (change entry).name = entry.name) (named : new.name = name)

theorem entry_alter_self :
    entry? (headers.alter name change new keeps named) name =
      some ((headers.entry? name).elim new change) := by
  apply entry_eq_some_iff.mpr
  unfold alter
  by_cases present : name ∈ headers.names
  · obtain ⟨entry, found⟩ := Option.ne_none_iff_exists'.mp fun absent =>
      entry_eq_none_iff.mp absent present
    obtain ⟨member, here⟩ := entry_eq_some_iff.mp found
    rw [dif_pos present, found]
    refine ⟨List.mem_map.mpr ⟨entry, member, if_pos here⟩, ?_⟩
    exact (keeps entry).trans here
  · rw [dif_neg present, entry_eq_none_iff.mpr present]
    exact ⟨by simp, named⟩

theorem entry_alter_of_ne (different : name ≠ other) :
    entry? (headers.alter name change new keeps named) other = headers.entry? other := by
  have apart : ∀ entry, entry ∈ (headers.alter name change new keeps named).entries ∧
      entry.name = other ↔ entry ∈ headers.entries ∧ entry.name = other := by
    intro entry
    unfold alter
    split
    · constructor
      · rintro ⟨member, here⟩
        obtain ⟨old, kept, rfl⟩ := List.mem_map.mp member
        by_cases hit : old.name = name
        · rw [if_pos hit, keeps, hit] at here
          exact absurd here different
        · rw [if_neg hit] at here ⊢
          exact ⟨kept, here⟩
      · rintro ⟨member, rfl⟩
        exact ⟨List.mem_map.mpr ⟨entry, member, if_neg (Ne.symm different)⟩, rfl⟩
    · constructor
      · rintro ⟨member, here⟩
        rcases List.mem_append.mp member with old | added
        · exact ⟨old, here⟩
        · obtain rfl := List.mem_singleton.mp added
          exact absurd (named.symm.trans here) different
      · rintro ⟨member, here⟩
        exact ⟨List.mem_append_left _ member, here⟩
  apply Option.ext
  intro entry
  rw [entry_eq_some_iff, entry_eq_some_iff, apart]

theorem names_alter : names (headers.alter name change new keeps named) =
    if name ∈ headers.names then headers.names else headers.names ++ [name] := by
  unfold alter
  split
  · simp only [names, List.map_map]
    apply List.map_congr_left
    intro entry _
    simp only [Function.comp_apply]
    split
    · exact keeps entry
    · rfl
  · rw [names, List.map_append, List.map_singleton, named, names]

end

theorem getAll_insert (headers : HeaderMap) (name other : HeaderName) (value : HeaderValue) :
    (headers.insert name value).getAll other =
      if name = other then [value] else headers.getAll other := by
  unfold insert
  split
  · rename_i same
    subst same
    rw [getAll_of_entry (entry_alter_self _ _)]
    cases headers.entry? name <;> rfl
  · rename_i different
    exact getAll_congr (entry_alter_of_ne _ _ different)

theorem names_append (headers : HeaderMap) (name : HeaderName) (value : HeaderValue) :
    (headers.append name value).names =
      if name ∈ headers.names then headers.names else headers.names ++ [name] :=
  names_alter _ _

theorem getAll_append_self (headers : HeaderMap) (name : HeaderName) (value : HeaderValue) :
    (headers.append name value).getAll name = headers.getAll name ++ [value] := by
  have found : entry? (headers.append name value) name =
      some ((headers.entry? name).elim ⟨name, value, []⟩ fun entry => entry.push value) :=
    entry_alter_self _ _
  rw [getAll_of_entry found]
  unfold getAll
  cases headers.entry? name <;> rfl

theorem getAll_append_of_ne (different : name ≠ other) (value : HeaderValue) :
    (headers.append name value).getAll other = headers.getAll other :=
  getAll_congr (entry_alter_of_ne _ _ different)

/-- Where the name is found, the last entry takes its place and no other is lost. -/
theorem removeEntry_perm {head : HeaderEntry} {rest : List HeaderEntry} (hit : head.name = name) :
    (removeEntry name (head :: rest)).Perm rest := by
  unfold removeEntry
  rw [if_pos hit]
  cases last : rest.getLast? with
  | none => rw [List.getLast?_eq_none_iff.mp last]
  | some final =>
      obtain ⟨front, rfl⟩ := List.getLast?_eq_some_iff.mp last
      rw [List.dropLast_concat]
      exact (List.perm_append_singleton final front).symm

theorem mem_removeEntry {entries : List HeaderEntry}
    (distinct : (entries.map HeaderEntry.name).Nodup) :
    entry ∈ removeEntry name entries ↔ entry ∈ entries ∧ entry.name ≠ name := by
  induction entries with
  | nil => simp [removeEntry]
  | cons head rest induction =>
      obtain ⟨fresh, tail⟩ := List.nodup_cons.mp distinct
      by_cases hit : head.name = name
      · have others : ∀ entry ∈ rest, entry.name ≠ name := by
          intro entry member same
          exact fresh (List.mem_map.mpr ⟨entry, member, same.trans hit.symm⟩)
        rw [(removeEntry_perm hit).mem_iff]
        constructor
        · intro member
          exact ⟨List.mem_cons_of_mem _ member, others entry member⟩
        · rintro ⟨member, apart⟩
          rcases List.mem_cons.mp member with rfl | later
          · exact absurd hit apart
          · exact later
      · unfold removeEntry
        rw [if_neg hit, List.mem_cons, List.mem_cons, induction tail]
        constructor
        · rintro (rfl | ⟨member, apart⟩)
          · exact ⟨.inl rfl, hit⟩
          · exact ⟨.inr member, apart⟩
        · rintro ⟨rfl | member, apart⟩
          · exact .inl rfl
          · exact .inr ⟨member, apart⟩

theorem getAll_remove (headers : HeaderMap) (name other : HeaderName) :
    (headers.remove name).getAll other = if name = other then [] else headers.getAll other := by
  have left : ∀ entry, entry? (headers.remove name) other = some entry ↔
      headers.entry? other = some entry ∧ entry.name ≠ name := by
    intro entry
    rw [entry_eq_some_iff, entry_eq_some_iff]
    have member : entry ∈ (headers.remove name).entries ↔
        entry ∈ headers.entries ∧ entry.name ≠ name := mem_removeEntry headers.distinct
    rw [member, and_right_comm]
  split
  · rename_i same
    subst same
    rw [getAll_eq_nil_iff, ← entry_eq_none_iff, Option.eq_none_iff_forall_ne_some]
    intro entry found
    obtain ⟨there, apart⟩ := (left entry).mp found
    exact apart (entry_eq_some_iff.mp there).2
  · rename_i different
    apply getAll_congr
    apply Option.ext
    intro entry
    rw [left]
    constructor
    · exact And.left
    · intro found
      exact ⟨found, fun same => different (same.symm.trans (entry_eq_some_iff.mp found).2)⟩

theorem getAll_removeAll (headers : HeaderMap) (names : List HeaderName) (other : HeaderName) :
    (headers.removeAll names).getAll other =
      if other ∈ names then [] else headers.getAll other := by
  induction names generalizing headers with
  | nil => simp [removeAll]
  | cons name rest induction =>
      have step : headers.removeAll (name :: rest) = (headers.remove name).removeAll rest := rfl
      rw [step, induction, getAll_remove]
      by_cases later : other ∈ rest
      · simp [later]
      · by_cases same : name = other
        · simp [same]
        · simp [later, same, Ne.symm same]

end Gateway.HeaderMap
