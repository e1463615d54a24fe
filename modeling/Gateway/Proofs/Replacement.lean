import Gateway.Text.Search
import Mathlib.Data.List.Basic
import Mathlib.Data.List.Infix

/-!
Replacing a pattern from left to right. A text with marks in it is written once with the pattern and
once with a value in the places of the marks, and replacement leads from the one to the other as long
as the pattern stands at the marks and nowhere else. It can stand elsewhere: the characters between
the marks may spell it as well. Counting its places tells which of the two is the case.
-/

namespace Gateway.Text

variable {pattern value : List Char}

theorem replaceFrom_drop (skip : Nat) (chars : List Char) :
    replaceFrom pattern value skip chars = replaceFrom pattern value 0 (chars.drop skip) := by
  induction chars generalizing skip with
  | nil => cases skip <;> rfl
  | cons c rest induction =>
      cases skip with
      | zero => rfl
      | succ skip => exact induction skip

theorem replaceFrom_pattern (filled : pattern ≠ []) (rest : List Char) :
    replaceFrom pattern value 0 (pattern ++ rest) = value ++ replaceFrom pattern value 0 rest := by
  obtain ⟨first, more, rfl⟩ := List.exists_cons_of_ne_nil filled
  rw [List.cons_append, replaceFrom, if_pos, replaceFrom_drop]
  · simp
  · rw [List.isPrefixOf_iff_prefix, ← List.cons_append]
    exact List.prefix_append _ _

theorem replaceFrom_other {c : Char} {rest : List Char} (other : ¬pattern <+: c :: rest) :
    replaceFrom pattern value 0 (c :: rest) = c :: replaceFrom pattern value 0 rest := by
  rw [replaceFrom, if_neg (by rwa [List.isPrefixOf_iff_prefix])]

/-- A text is empty, or it starts with the pattern, or with a character where the pattern does not
stand. -/
theorem replacement_induction {motive : List Char → Prop} (filled : pattern ≠ []) (nil : motive [])
    (occurrence : ∀ rest, motive rest → motive (pattern ++ rest))
    (other : ∀ c rest, ¬pattern <+: c :: rest → motive rest → motive (c :: rest))
    (chars : List Char) : motive chars := by
  induction size : chars.length using Nat.strong_induction_on generalizing chars with
  | _ size induction =>
      subst size
      cases chars with
      | nil => exact nil
      | cons c rest =>
          by_cases here : pattern <+: c :: rest
          · obtain ⟨behind, whole⟩ := here
            rw [← whole] at induction ⊢
            have shorter : behind.length < (pattern ++ behind).length := by
              have := List.length_pos_iff.mpr filled
              rw [List.length_append]
              omega
            exact occurrence behind (induction _ shorter behind rfl)
          · exact other c rest here (induction _ (by simp) rest rfl)

/-- How many places of a text the pattern stands at. -/
def occurrences (pattern : List Char) : List Char → Nat
  | [] => 0
  | c :: rest => occurrences pattern rest + if pattern.isPrefixOf (c :: rest) then 1 else 0

/-- No end of the pattern is a start of it, so that it cannot stand at two places that overlap. -/
def Unbordered (pattern : List Char) : Prop :=
  ∀ start < pattern.length, 0 < start → ¬pattern.drop start <+: pattern

instance (pattern : List Char) : Decidable (Unbordered pattern) :=
  inferInstanceAs (Decidable (∀ start < pattern.length, 0 < start → ¬pattern.drop start <+: pattern))

theorem occurrences_drop_append (unbordered : Unbordered pattern) {start : Nat}
    (positive : 0 < start) (rest : List Char) :
    occurrences pattern (pattern.drop start ++ rest) = occurrences pattern rest := by
  induction left : pattern.length - start generalizing start with
  | zero => rw [List.drop_eq_nil_of_le (by omega), List.nil_append]
  | succ left induction =>
      have inside : start < pattern.length := by omega
      have apart : ¬pattern <+: pattern.drop start ++ rest := by
        intro stands
        have border : pattern.drop start <+: pattern :=
          List.prefix_of_prefix_length_le (List.prefix_append _ rest) stands (by simp)
        exact unbordered start inside positive border
      rw [List.drop_eq_getElem_cons inside, List.cons_append] at apart ⊢
      rw [occurrences, if_neg (by rwa [List.isPrefixOf_iff_prefix]),
        induction (Nat.succ_pos start) (by omega)]
      rfl

theorem occurrences_pattern (filled : pattern ≠ []) (unbordered : Unbordered pattern)
    (rest : List Char) : occurrences pattern (pattern ++ rest) = occurrences pattern rest + 1 := by
  have behind := occurrences_drop_append unbordered Nat.one_pos rest
  obtain ⟨first, more, rfl⟩ := List.exists_cons_of_ne_nil filled
  rw [List.drop_succ_cons, List.drop_zero] at behind
  rw [List.cons_append, occurrences, behind, if_pos]
  rw [List.isPrefixOf_iff_prefix, ← List.cons_append]
  exact List.prefix_append _ _

theorem occurrences_other {c : Char} {rest : List Char} (other : ¬pattern <+: c :: rest) :
    occurrences pattern (c :: rest) = occurrences pattern rest := by
  rw [occurrences, if_neg (by rwa [List.isPrefixOf_iff_prefix])]
  rfl

theorem length_replaceFrom (filled : pattern ≠ []) (unbordered : Unbordered pattern)
    (chars : List Char) :
    (replaceFrom pattern value 0 chars).length + occurrences pattern chars * pattern.length =
      chars.length + occurrences pattern chars * value.length := by
  induction chars using replacement_induction filled with
  | nil => simp [replaceFrom, occurrences]
  | occurrence rest induction =>
      rw [replaceFrom_pattern filled, occurrences_pattern filled unbordered, List.length_append,
        List.length_append, Nat.succ_mul, Nat.succ_mul]
      omega
  | other c rest apart induction =>
      rw [replaceFrom_other apart, occurrences_other apart, List.length_cons, List.length_cons]
      omega

theorem replaceFrom_self (filled : pattern ≠ []) (chars : List Char) :
    replaceFrom pattern pattern 0 chars = chars := by
  induction chars using replacement_induction filled with
  | nil => rfl
  | occurrence rest induction => rw [replaceFrom_pattern filled, induction]
  | other c rest apart induction => rw [replaceFrom_other apart, induction]

theorem replaceFrom_of_occurrences {chars : List Char} (none : occurrences pattern chars = 0) :
    replaceFrom pattern value 0 chars = chars := by
  induction chars with
  | nil => rfl
  | cons c rest induction =>
      rw [occurrences, Nat.add_eq_zero_iff, ite_eq_right_iff] at none
      rw [replaceFrom_other, induction none.1]
      rw [← List.isPrefixOf_iff_prefix]
      exact fun stands => absurd (none.2 stands) (by decide)

theorem replaceFrom_append {first : Char} (headed : pattern.head? = some first) {front : List Char}
    (missing : first ∉ front) (back : List Char) :
    replaceFrom pattern value 0 (front ++ back) = front ++ replaceFrom pattern value 0 back := by
  obtain ⟨more, rfl⟩ := List.head?_eq_some_iff.mp headed
  induction front with
  | nil => rfl
  | cons c rest induction =>
      rw [List.mem_cons, not_or] at missing
      rw [List.cons_append, replaceFrom_other, induction missing.2, List.cons_append]
      rw [List.cons_prefix_cons]
      exact fun stands => missing.1 stands.1

/-- A character that is not in the pattern separates the places in front of it and behind it. -/
theorem replaceFrom_separator (filled : pattern ≠ []) {separator : Char}
    (missing : separator ∉ pattern) (front back : List Char) :
    replaceFrom pattern value 0 (front ++ separator :: back) =
      replaceFrom pattern value 0 front ++ separator :: replaceFrom pattern value 0 back := by
  induction front using replacement_induction filled with
  | nil =>
      rw [List.nil_append, replaceFrom_other]
      · rfl
      · intro stands
        obtain ⟨first, more, rfl⟩ := List.exists_cons_of_ne_nil filled
        rw [List.cons_prefix_cons] at stands
        exact missing (stands.1 ▸ List.mem_cons_self)
  | occurrence rest induction =>
      rw [List.append_assoc, replaceFrom_pattern filled, replaceFrom_pattern filled, induction,
        List.append_assoc]
  | other c rest apart induction =>
      rw [List.cons_append, replaceFrom_other, replaceFrom_other apart, induction, List.cons_append]
      rintro ⟨after, whole⟩
      rw [← List.cons_append] at whole
      obtain ⟨within, split, _⟩ | ⟨within, split, behind⟩ := List.append_eq_append_iff.mp whole
      · exact apart ⟨within, split.symm⟩
      · cases within with
        | nil => exact apart ⟨[], by rw [split, List.append_nil, List.append_nil]⟩
        | cons d more =>
            apply missing
            rw [split, (List.cons.inj behind).1]
            exact List.mem_append_right _ List.mem_cons_self

theorem filter_replaceFrom {keep : Char → Bool} (filled : pattern ≠ [])
    (patternFree : pattern.filter keep = []) (valueFree : value.filter keep = [])
    (chars : List Char) :
    (replaceFrom pattern value 0 chars).filter keep = chars.filter keep := by
  induction chars using replacement_induction filled with
  | nil => rfl
  | occurrence rest induction =>
      rw [replaceFrom_pattern filled, List.filter_append, List.filter_append, patternFree,
        valueFree, induction]
  | other c rest apart induction =>
      rw [replaceFrom_other apart, List.filter_cons, List.filter_cons, induction]

theorem replaceFrom_singleton (c : Char) (value chars : List Char) :
    replaceFrom [c] value 0 chars = chars.flatMap fun d => if d = c then value else [d] := by
  induction chars with
  | nil => rfl
  | cons d rest induction =>
      rw [List.flatMap_cons, ← induction]
      by_cases here : d = c
      · subst here
        rw [if_pos rfl]
        exact replaceFrom_pattern (List.cons_ne_nil d []) rest
      · rw [if_neg here]
        apply replaceFrom_other
        rw [List.cons_prefix_cons]
        exact fun stands => here stands.1.symm

abbrev Marked := List (Option Char)

def written (value : List Char) (marked : Marked) : List Char :=
  marked.flatMap fun mark => mark.elim value ([·])

def marks (marked : Marked) : Nat := marked.count none

@[simp]
theorem written_none (value : List Char) (marked : Marked) :
    written value (none :: marked) = value ++ written value marked :=
  List.flatMap_cons

@[simp]
theorem written_some (value : List Char) (c : Char) (marked : Marked) :
    written value (some c :: marked) = c :: written value marked :=
  List.flatMap_cons

theorem written_append (value : List Char) (front back : Marked) :
    written value (front ++ back) = written value front ++ written value back :=
  List.flatMap_append

theorem written_plain (value chars : List Char) : written value (chars.map some) = chars := by
  induction chars with
  | nil => rfl
  | cons c rest induction => rw [List.map_cons, written_some, induction]

theorem marks_append (front back : Marked) : marks (front ++ back) = marks front + marks back :=
  List.count_append

theorem marks_plain (chars : List Char) : marks (chars.map some) = 0 :=
  List.count_eq_zero.mpr (by simp)

theorem length_written (pattern value : List Char) (marked : Marked) :
    (written value marked).length + marks marked * pattern.length =
      (written pattern marked).length + marks marked * value.length := by
  induction marked with
  | nil => simp [written, marks]
  | cons mark rest induction =>
      cases mark with
      | none =>
          have counted : marks (none :: rest) = marks rest + 1 := List.count_cons_self
          rw [written_none, written_none, counted, List.length_append, List.length_append,
            Nat.succ_mul, Nat.succ_mul]
          omega
      | some c =>
          have counted : marks (some c :: rest) = marks rest := List.count_cons_of_ne (by simp)
          rw [written_some, written_some, counted, List.length_cons, List.length_cons]
          omega

/-- The pattern stands at the marks and nowhere else. -/
def StrayFree (pattern : List Char) : Marked → Prop
  | [] => True
  | none :: rest => StrayFree pattern rest
  | some c :: rest => ¬pattern <+: c :: written pattern rest ∧ StrayFree pattern rest

theorem StrayFree.plain_append {marked : Marked} (free : StrayFree pattern marked)
    {chars : List Char} {first : Char} (headed : pattern.head? = some first)
    (missing : first ∉ chars) : StrayFree pattern (chars.map some ++ marked) := by
  induction chars with
  | nil => exact free
  | cons c rest induction =>
      rw [List.mem_cons, not_or] at missing
      refine ⟨?_, induction missing.2⟩
      intro stands
      obtain ⟨more, rfl⟩ := List.head?_eq_some_iff.mp headed
      exact missing.1 (List.cons_prefix_cons.mp stands).1

/-- Replacing the pattern is writing the value, if the pattern stands at the marks only. -/
theorem replaceFrom_written (filled : pattern ≠ []) {marked : Marked}
    (free : StrayFree pattern marked) :
    replaceFrom pattern value 0 (written pattern marked) = written value marked := by
  induction marked with
  | nil => rfl
  | cons mark rest induction =>
      cases mark with
      | none => rw [written_none, written_none, replaceFrom_pattern filled, induction free]
      | some c => rw [written_some, written_some, replaceFrom_other free.1, induction free.2]

/-- The pattern stands at every mark, and at no other place exactly if there are no more places than
marks. -/
theorem marks_le_occurrences (filled : pattern ≠ []) (unbordered : Unbordered pattern)
    (marked : Marked) :
    marks marked ≤ occurrences pattern (written pattern marked) ∧
      (StrayFree pattern marked ↔
        occurrences pattern (written pattern marked) = marks marked) := by
  induction marked with
  | nil => exact ⟨Nat.le_refl 0, fun _ => rfl, fun _ => trivial⟩
  | cons mark rest induction =>
      obtain ⟨least, exact⟩ := induction
      cases mark with
      | none =>
          have counted : marks (none :: rest) = marks rest + 1 := List.count_cons_self
          rw [written_none, occurrences_pattern filled unbordered, counted, StrayFree, exact]
          omega
      | some c =>
          have counted : marks (some c :: rest) = marks rest := List.count_cons_of_ne (by simp)
          rw [written_some, occurrences, counted, StrayFree, exact, ← List.isPrefixOf_iff_prefix]
          split
          · rename_i stray
            exact ⟨by omega, fun free => absurd stray free.1, fun same => by omega⟩
          · rename_i apart
            exact ⟨least, And.right, fun same => ⟨apart, same⟩⟩

/-- A place of the pattern does not overlap a mark, so that characters spell it. -/
theorem eq_plain_append (unbordered : Unbordered pattern) {start : Nat} (positive : 0 < start)
    {marked : Marked} (stands : pattern.drop start <+: written pattern marked) :
    ∃ back, marked = (pattern.drop start).map some ++ back := by
  induction left : pattern.length - start generalizing start marked with
  | zero => exact ⟨marked, by rw [List.drop_eq_nil_of_le (by omega)]; rfl⟩
  | succ left induction =>
      have inside : start < pattern.length := by omega
      cases marked with
      | nil =>
          have ended := List.prefix_nil.mp stands
          rw [List.drop_eq_nil_iff] at ended
          omega
      | cons mark rest =>
          cases mark with
          | none =>
              have border : pattern.drop start <+: pattern :=
                List.prefix_of_prefix_length_le stands (List.prefix_append _ _) (by simp)
              exact absurd border (unbordered start inside positive)
          | some c =>
              rw [written_some, List.drop_eq_getElem_cons inside, List.cons_prefix_cons] at stands
              obtain ⟨back, spelled⟩ := induction (Nat.succ_pos start) stands.2 (by omega)
              exact ⟨back, by rw [List.drop_eq_getElem_cons inside, stands.1, spelled]; rfl⟩

/-- Where the pattern stands at a place that is not marked, replacement writes the value there, and
writing at the marks leaves the pattern. -/
theorem eq_pattern_of_stray (filled : pattern ≠ []) (unbordered : Unbordered pattern)
    {marked : Marked} (stray : ¬StrayFree pattern marked) (long : value.length = pattern.length)
    (same : replaceFrom pattern value 0 (written pattern marked) = written value marked) :
    value = pattern := by
  induction marked with
  | nil => exact absurd trivial stray
  | cons mark rest induction =>
      cases mark with
      | none =>
          rw [written_none, written_none, replaceFrom_pattern filled] at same
          exact induction stray (List.append_cancel_left same)
      | some c =>
          by_cases here : pattern <+: c :: written pattern rest
          · obtain ⟨first, more, rfl⟩ := List.exists_cons_of_ne_nil filled
            rw [List.cons_prefix_cons] at here
            obtain ⟨back, spelled⟩ := eq_plain_append unbordered Nat.one_pos here.2
            have whole : some c :: rest = (first :: more).map some ++ back := by
              rw [← here.1, spelled]
              rfl
            rw [whole, written_append, written_append, written_plain, written_plain,
              replaceFrom_pattern filled] at same
            exact (List.append_inj same long).1
          · rw [written_some, written_some, replaceFrom_other here] at same
            exact induction (fun free => stray ⟨here, free⟩) (List.cons.inj same).2

/-- Replacing the pattern is writing the value at the marks exactly if the pattern stands at no more
places than there are marks, or is replaced by itself. -/
theorem replaceFrom_written_iff (filled : pattern ≠ []) (unbordered : Unbordered pattern)
    (marked : Marked) :
    replaceFrom pattern value 0 (written pattern marked) = written value marked ↔
      occurrences pattern (written pattern marked) = marks marked ∨ value = pattern := by
  obtain ⟨least, exact⟩ := marks_le_occurrences filled unbordered marked
  rw [← exact]
  constructor
  · intro same
    by_cases free : StrayFree pattern marked
    · exact .inl free
    · -- with more places than marks the two are equally long only if the value is as long as the
      -- pattern
      have replaced := @length_replaceFrom pattern value filled unbordered (written pattern marked)
      have marking := length_written pattern value marked
      obtain ⟨extra, more⟩ := Nat.exists_eq_add_of_lt (Nat.lt_of_le_of_ne least fun equal =>
        free (exact.mpr equal.symm))
      have cancelled : (extra + 1) * value.length = (extra + 1) * pattern.length := by
        rw [same, more] at replaced
        simp only [Nat.add_mul] at replaced ⊢
        omega
      have long := Nat.eq_of_mul_eq_mul_left (Nat.succ_pos extra) cancelled
      exact .inr (eq_pattern_of_stray filled unbordered free long same)
  · rintro (free | rfl)
    · exact replaceFrom_written filled free
    · exact replaceFrom_self filled _

end Gateway.Text
