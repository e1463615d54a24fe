import Gateway.Http.Token
import Mathlib.Data.List.TakeWhile

/-!
Trimming. Blanks in front and behind go, and what is free of blanks stays: the characters of methods,
numbers and units.
-/

namespace Gateway

theorem isTokenChar_code {c : Char} (token : isTokenChar c = true) :
    32 < c.toNat ∧ c.toNat < 127 := by
  unfold isTokenChar at token
  simp only [Bool.or_eq_true, decide_eq_true_eq] at token
  rcases token with (letter | listed) | tick
  · change (decide (c.val ≥ 65 ∧ c.val ≤ 90) || (decide (c.val ≥ 97) && decide (c.val ≤ 122)) ||
      (decide (c.val ≥ 48) && decide (c.val ≤ 57))) = true at letter
    simp only [Bool.or_eq_true, Bool.and_eq_true, decide_eq_true_eq, ge_iff_le,
      UInt32.le_iff_toNat_le, UInt32.reduceToNat] at letter
    have code : c.toNat = c.val.toNat := rfl
    omega
  · have all : "!#$%&'*+-.^_|~".toList.all (fun c => 32 < c.toNat ∧ c.toNat < 127) = true := by decide
    simpa using List.all_eq_true.mp all c listed
  · omega

namespace Text

theorem isBlank_of_isTokenChar {c : Char} (token : isTokenChar c = true) : isBlank c = false := by
  obtain ⟨above, below⟩ := isTokenChar_code token
  simp only [isBlank, Bool.or_eq_false_iff, Bool.and_eq_false_iff, decide_eq_false_iff_not]
  omega

theorem toList_trim (text : String) : (trim text).toList = trimChars text.toList :=
  String.toList_ofList

section Ends

variable {blanks solid : List Char}

theorem dropBlankEnd_blanks (blank : ∀ c ∈ blanks, isBlank c = true) (chars : List Char) :
    dropBlankEnd (chars ++ blanks) = dropBlankEnd chars := by
  rw [dropBlankEnd, dropBlankEnd, List.reverse_append, List.dropWhile_append_of_pos]
  intro c member
  exact blank c (List.mem_reverse.mp member)

theorem dropWhile_solid (free : ∀ c ∈ solid, isBlank c = false) :
    solid.dropWhile isBlank = solid := by
  rw [List.dropWhile_eq_self_iff]
  intro nonempty
  rw [free _ (List.getElem_mem nonempty)]
  decide

theorem dropWhile_solid_append (free : ∀ c ∈ solid, isBlank c = false) (nonempty : solid ≠ [])
    (chars : List Char) : (solid ++ chars).dropWhile isBlank = solid ++ chars := by
  rw [List.dropWhile_append, dropWhile_solid free, if_neg (List.isEmpty_iff.not.mpr nonempty)]

theorem dropBlankEnd_solid (free : ∀ c ∈ solid, isBlank c = false) (chars : List Char) :
    dropBlankEnd (solid ++ chars) = solid ++ dropBlankEnd chars := by
  have backwards : ∀ c ∈ solid.reverse, isBlank c = false := fun c member =>
    free c (List.mem_reverse.mp member)
  rw [dropBlankEnd, dropBlankEnd, List.reverse_append, List.dropWhile_append]
  split
  · rename_i empty
    rw [dropWhile_solid backwards, List.isEmpty_iff.mp empty, List.reverse_reverse,
      List.reverse_nil, List.append_nil]
  · rw [List.reverse_append, List.reverse_reverse]

theorem dropBlankEnd_append_solid (free : ∀ c ∈ solid, isBlank c = false) (nonempty : solid ≠ [])
    (chars : List Char) : dropBlankEnd (chars ++ solid) = chars ++ solid := by
  have backwards : ∀ c ∈ solid.reverse, isBlank c = false := fun c member =>
    free c (List.mem_reverse.mp member)
  rw [dropBlankEnd, List.reverse_append,
    dropWhile_solid_append backwards (List.reverse_ne_nil_iff.mpr nonempty), ← List.reverse_append,
    List.reverse_reverse]

theorem trimChars_blanks (blank : ∀ c ∈ blanks, isBlank c = true) (chars : List Char) :
    trimChars (blanks ++ chars) = trimChars chars := by
  rw [trimChars, trimChars, List.dropWhile_append_of_pos blank]

theorem trimChars_solid_append (free : ∀ c ∈ solid, isBlank c = false) (nonempty : solid ≠ [])
    (chars : List Char) : trimChars (solid ++ chars) = solid ++ dropBlankEnd chars := by
  rw [trimChars, dropWhile_solid_append free nonempty, dropBlankEnd_solid free]

theorem trimChars_solid (free : ∀ c ∈ solid, isBlank c = false) : trimChars solid = solid := by
  have kept := dropBlankEnd_solid free []
  rw [List.append_nil, show dropBlankEnd [] = [] from rfl, List.append_nil] at kept
  rw [trimChars, dropWhile_solid free, kept]

end Ends

end Text

end Gateway
