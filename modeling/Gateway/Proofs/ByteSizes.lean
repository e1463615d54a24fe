import Gateway.BodyLimit
import Gateway.Proofs.Rounding
import Gateway.Proofs.Trimming
import Mathlib.Data.List.Induction
import Mathlib.Data.Nat.Digits.Defs

/-!
Sizes in bytes. A whole number of a unit is read as the product of both as long as 53 bits hold it,
although it is computed with doubles; any blanks may stand around the text and in front of the unit,
and the letter case of the unit does not count. What does not start with a number, has two points in
it or names no unit is no size.
-/

namespace Gateway

theorem configuredSize_of_read {text : String} {size : Nat} (read : ByteSize.read text = .ok size) :
    configuredSize text = .ok size := by
  rw [configuredSize, read]

theorem configuredSize_of_fault {text : String} {fault : ByteSize.Fault}
    (read : ByteSize.read text = .error fault) :
    configuredSize text = .error (.invalidSize text fault.message) := by
  rw [configuredSize, read]

namespace ByteSize

/-- The units in small letters with their bytes: single bytes, powers of 1000 and powers of 1024. -/
def units : List (String × Nat) :=
  [("", 1), ("k", 1000), ("m", 1000 ^ 2), ("g", 1000 ^ 3), ("t", 1000 ^ 4),
    ("ki", 1024), ("mi", 1024 ^ 2), ("gi", 1024 ^ 3), ("ti", 1024 ^ 4)]

/-- A unit in any letter case, with or without a `b` behind it. -/
def Denotes (unit : String) (size : Nat) : Prop :=
  ∃ stem, (stem, size) ∈ units ∧ (Text.lower unit = stem ∨ Text.lower unit = stem ++ "b")

theorem multiplier_units : ∀ entry ∈ units,
    multiplier entry.1 = some entry.2 ∧ multiplier (entry.1 ++ "b") = some entry.2 := by
  decide

theorem mem_units_of_multiplier {unit : String} {size : Nat} (found : multiplier unit = some size) :
    ∃ stem, (stem, size) ∈ units ∧ (unit = stem ∨ unit = stem ++ "b") := by
  unfold multiplier at found
  split_ifs at found with byte kilo mega giga tera kibi mebi gibi tebi <;> cases found
  · exact ⟨"", by decide, List.mem_pair.mp byte⟩
  · exact ⟨"k", by decide, List.mem_pair.mp kilo⟩
  · exact ⟨"m", by decide, List.mem_pair.mp mega⟩
  · exact ⟨"g", by decide, List.mem_pair.mp giga⟩
  · exact ⟨"t", by decide, List.mem_pair.mp tera⟩
  · exact ⟨"ki", by decide, List.mem_pair.mp kibi⟩
  · exact ⟨"mi", by decide, List.mem_pair.mp mebi⟩
  · exact ⟨"gi", by decide, List.mem_pair.mp gibi⟩
  · exact ⟨"ti", by decide, List.mem_pair.mp tebi⟩

theorem multiplier_lower_iff {unit : String} {size : Nat} :
    multiplier (Text.lower unit) = some size ↔ Denotes unit size := by
  refine ⟨mem_units_of_multiplier, ?_⟩
  rintro ⟨stem, listed, spelled | spelled⟩
  · exact spelled ▸ (multiplier_units _ listed).1
  · exact spelled ▸ (multiplier_units _ listed).2

theorem letters_of_units : ∀ entry ∈ units, (entry.1 ++ "b").toList ⊆ "kmgtib".toList := by
  decide

theorem word_of_letter {c : Char} (letter : c.toLower ∈ "kmgtib".toList) :
    isTokenChar c = true ∧ isNumberChar c = false := by
  have table : ∀ code < 128, (Char.ofNat code).toLower ∈ "kmgtib".toList →
      isTokenChar (Char.ofNat code) = true ∧ isNumberChar (Char.ofNat code) = false := by
    decide
  by_cases ascii : c.toNat < 128
  · rw [← Char.ofNat_toNat c] at letter ⊢
    exact table c.toNat ascii letter
  · have kept : c.toLower = c := dif_neg fun capital =>
      ascii (lt_of_le_of_lt (show c.toNat ≤ 90 from capital.2) (by decide))
    have all : "kmgtib".toList.all (fun c => c.toNat < 128) = true := by decide
    exact absurd (by simpa using List.all_eq_true.mp all c (kept ▸ letter)) ascii

theorem Denotes.word {unit : String} {size : Nat} (denotes : Denotes unit size) :
    ∀ c ∈ unit.toList, isTokenChar c = true ∧ isNumberChar c = false := by
  intro c member
  obtain ⟨stem, listed, spelled⟩ := denotes
  have lowered : c.toLower ∈ (Text.lower unit).toList := by
    rw [Text.lower, String.toList_ofList]
    exact List.mem_map_of_mem member
  apply word_of_letter
  apply letters_of_units _ listed
  rcases spelled with same | same
  · rw [String.toList_append]
    exact List.mem_append_left _ (same ▸ lowered)
  · exact same ▸ lowered

theorem Denotes.size_bounds {unit : String} {size : Nat} (denotes : Denotes unit size) :
    0 < size ∧ size ≤ 2 ^ 53 := by
  obtain ⟨stem, listed, -⟩ := denotes
  have table : ∀ entry ∈ units, 0 < entry.2 ∧ entry.2 ≤ 2 ^ 53 := by decide
  exact table _ listed

theorem digitsValue_eq (digits : List Char) :
    digitsValue digits = Nat.ofDigits 10 (digits.reverse.map fun c => c.toNat - 48) := by
  induction digits using List.reverseRecOn with
  | nil => rfl
  | append_singleton digits last induction =>
      rw [List.reverse_append, List.reverse_singleton, List.singleton_append, List.map_cons,
        Nat.ofDigits_cons, ← induction, digitsValue, List.foldl_append]
      change digitsValue digits * 10 + (last.toNat - 48) = _
      omega

theorem isNumberChar_of_isDigit {c : Char} (digit : c.isDigit = true) : isNumberChar c = true := by
  rw [isNumberChar, digit, Bool.true_or]

theorem isTokenChar_of_isDigit {c : Char} (digit : c.isDigit = true) : isTokenChar c = true := by
  simp [isTokenChar, Char.isAlphanum, digit]

theorem isNumberChar_of_isBlank {c : Char} (blank : Text.isBlank c = true) :
    isNumberChar c = false := by
  rw [Bool.eq_false_iff]
  intro number
  rw [isNumberChar, Bool.or_eq_true, decide_eq_true_eq] at number
  have solid : Text.isBlank c = false := by
    rcases number with digit | rfl
    · exact Text.isBlank_of_isTokenChar (isTokenChar_of_isDigit digit)
    · decide
  exact nomatch blank.symm.trans solid

theorem readNumber_digits {digits : List Char} (numeric : ∀ c ∈ digits, c.isDigit = true)
    (nonempty : digits ≠ []) : readNumber digits = some (digits, 0) := by
  have whole : digits.takeWhile Char.isDigit = digits := List.takeWhile_eq_self_iff.mpr numeric
  have rest : digits.dropWhile Char.isDigit = [] := List.dropWhile_eq_nil_iff.mpr numeric
  simp only [readNumber, whole, rest, List.isEmpty_iff, if_neg nonempty]

theorem count_point_digits {digits : List Char} (numeric : ∀ c ∈ digits, c.isDigit = true) :
    digits.count '.' = 0 :=
  List.count_eq_zero_of_not_mem fun member => nomatch numeric '.' member

/-- A number has no second point. -/
theorem readNumber_eq_none {chars : List Char} (points : 1 < chars.count '.') :
    readNumber chars = none := by
  have split := List.takeWhile_append_dropWhile (p := Char.isDigit) (l := chars)
  have whole : (chars.takeWhile Char.isDigit).count '.' = 0 :=
    count_point_digits fun c member => List.mem_takeWhile_imp member
  rw [← split, List.count_append, whole, zero_add] at points
  rw [readNumber]
  cases rest : chars.dropWhile Char.isDigit with
  | nil =>
      rw [rest] at points
      simp at points
  | cons point fraction =>
      rw [rest, List.count_cons] at points
      refine if_neg fun accepted => ?_
      have numeric : ∀ c ∈ fraction, c.isDigit = true := by
        rw [Bool.and_eq_true, List.all_eq_true] at accepted
        exact accepted.1
      rw [count_point_digits numeric] at points
      split at points <;> omega

/-- A whole number of a unit as a size may be written: in decimal digits, with any blanks around it
and in front of the unit. -/
structure Spelling where
  before : List Char := []
  digits : List Char
  between : List Char := []
  unit : String
  after : List Char := []
  /-- The bytes of the unit. -/
  size : Nat
  blank : ∀ c ∈ before ++ between ++ after, Text.isBlank c = true := by exact List.all_eq_true.mp (by decide)
  numeric : ∀ c ∈ digits, c.isDigit = true := by exact List.all_eq_true.mp (by decide)
  nonempty : digits ≠ [] := by decide
  denotes : Denotes unit size

namespace Spelling

def text (spelling : Spelling) : String :=
  String.ofList (spelling.before ++
    (spelling.digits ++ (spelling.between ++ spelling.unit.toList) ++ spelling.after))

def number (spelling : Spelling) : Nat :=
  Nat.ofDigits 10 (spelling.digits.reverse.map fun c => c.toNat - 48)

variable (spelling : Spelling)

theorem dropBlankEnd_unit :
    (∀ c ∈ Text.dropBlankEnd (spelling.between ++ spelling.unit.toList), isNumberChar c = false) ∧
      Text.trimChars (Text.dropBlankEnd (spelling.between ++ spelling.unit.toList)) =
        spelling.unit.toList := by
  have blank : ∀ c ∈ spelling.between, Text.isBlank c = true := fun c member =>
    spelling.blank c (List.mem_append_left _ (List.mem_append_right _ member))
  have solid : ∀ c ∈ spelling.unit.toList, Text.isBlank c = false := fun c member =>
    Text.isBlank_of_isTokenChar (spelling.denotes.word c member).1
  rcases eq_or_ne spelling.unit.toList [] with omitted | given
  · have gone : Text.dropBlankEnd spelling.between = [] := Text.dropBlankEnd_blanks blank []
    rw [omitted, List.append_nil, gone]
    exact ⟨nofun, rfl⟩
  · have kept : Text.dropBlankEnd (spelling.between ++ spelling.unit.toList) =
        spelling.between ++ spelling.unit.toList :=
      Text.dropBlankEnd_append_solid solid given _
    rw [kept]
    refine ⟨fun c member => ?_, ?_⟩
    · rcases List.mem_append.mp member with within | within
      · exact isNumberChar_of_isBlank (blank c within)
      · exact (spelling.denotes.word c within).2
    · rw [Text.trimChars_blanks blank, Text.trimChars_solid solid]

theorem trimChars_text : Text.trimChars spelling.text.toList =
    spelling.digits ++ Text.dropBlankEnd (spelling.between ++ spelling.unit.toList) := by
  have before : ∀ c ∈ spelling.before, Text.isBlank c = true := fun c member =>
    spelling.blank c (List.mem_append_left _ (List.mem_append_left _ member))
  have after : ∀ c ∈ spelling.after, Text.isBlank c = true := fun c member =>
    spelling.blank c (List.mem_append_right _ member)
  have solid : ∀ c ∈ spelling.digits, Text.isBlank c = false := fun c member =>
    Text.isBlank_of_isTokenChar (isTokenChar_of_isDigit (spelling.numeric c member))
  rw [text, String.toList_ofList, Text.trimChars_blanks before, List.append_assoc,
    Text.trimChars_solid_append solid spelling.nonempty, Text.dropBlankEnd_blanks after]

end Spelling

def ofWhole (number size : Nat) : Except Fault Nat := ofProduct (Binary64.ofNat? number) size

theorem read_spelling (spelling : Spelling) :
    read spelling.text = ofWhole spelling.number spelling.size := by
  obtain ⟨unnumbered, trimmed⟩ := spelling.dropBlankEnd_unit
  have trimChars := spelling.trimChars_text
  generalize Text.dropBlankEnd (spelling.between ++ spelling.unit.toList) = rest at *
  have numeric : ∀ c ∈ spelling.digits, isNumberChar c = true := fun c member =>
    isNumberChar_of_isDigit (spelling.numeric c member)
  have stops : rest.takeWhile isNumberChar = [] := by
    rw [List.takeWhile_eq_nil_iff]
    intro nonempty
    rw [unnumbered _ (List.get_mem _ _)]
    decide
  have remains : rest.dropWhile isNumberChar = rest := by
    rw [List.dropWhile_eq_self_iff]
    intro nonempty
    rw [unnumbered _ (List.getElem_mem _)]
    decide
  have number : (spelling.digits ++ rest).takeWhile isNumberChar = spelling.digits := by
    rw [List.takeWhile_append_of_pos numeric, stops, List.append_nil]
  have unit : Text.trim (String.ofList ((spelling.digits ++ rest).dropWhile isNumberChar)) =
      spelling.unit := by
    rw [List.dropWhile_append_of_pos numeric, remains, Text.trim, String.toList_ofList, trimmed,
      String.ofList_toList]
  have size : multiplier (Text.lower spelling.unit) = some spelling.size :=
    multiplier_lower_iff.mpr spelling.denotes
  have value : Binary64.ofDecimal? (digitsValue spelling.digits) (-((0 : Nat) : Int)) =
      Binary64.ofNat? spelling.number := by
    rw [digitsValue_eq]
    simp [Binary64.ofDecimal?, Binary64.ofNat?, Spelling.number]
  simp only [read, trimChars, number, unit, size, List.isEmpty_iff, if_neg spelling.nonempty,
    readNumber_digits spelling.numeric spelling.nonempty, value, ofWhole]

section Whole

variable {number size bytes : Nat}

theorem ofWhole_eq_ok_iff : ofWhole number size = .ok bytes ↔ ∃ first second product,
    Binary64.ofNat? number = some first ∧ Binary64.ofNat? size = some second ∧
      first.mul? second = some product ∧ product.floor ≤ bound ∧
      bytes = min product.floor greatest := by
  constructor
  · intro read
    unfold ofWhole ofProduct at read
    split at read
    · cases read
    · rename_i first found
      split at read
      · cases read
      · rename_i product multiplied
        obtain ⟨second, unit, multiplied⟩ := Option.bind_eq_some_iff.mp multiplied
        split at read
        · cases read
        · rename_i within
          exact ⟨first, second, product, found, unit, multiplied, not_lt.mp within,
            (Except.ok.inj read).symm⟩
  · rintro ⟨first, second, product, found, unit, multiplied, within, rfl⟩
    simp only [ofWhole, ofProduct, found, unit, Option.bind_some, multiplied,
      if_neg (not_lt.mpr within)]

theorem ofWhole_exact (unit : size ≤ 2 ^ 53) (whole : number ≤ 2 ^ 53)
    (small : number * size ≤ 2 ^ 53) : ofWhole number size = .ok (number * size) := by
  obtain ⟨first, found, firstSame⟩ := (Binary64.rounds_ofNat? number).exact whole
  obtain ⟨second, unitFound, secondSame⟩ := (Binary64.rounds_ofNat? size).exact unit
  have rounds := Binary64.rounds_mul? first second
  rw [firstSame, secondSame, ← Nat.cast_mul] at rounds
  obtain ⟨product, multiplied, same⟩ := rounds.exact small
  have bytes : product.floor = number * size := by
    rw [Binary64.floor_eq, same, Nat.floor_natCast]
  have within : 2 ^ 53 ≤ greatest := by decide
  have below : greatest ≤ bound := by decide
  rw [ofWhole_eq_ok_iff]
  refine ⟨first, second, product, found, unitFound, multiplied, ?_, ?_⟩
  · omega
  · rw [bytes, min_eq_left (small.trans within)]

end Whole

def numberPart (text : String) : List Char :=
  (Text.trim text).toList.takeWhile isNumberChar

def unitPart (text : String) : String :=
  Text.trim (String.ofList ((Text.trim text).toList.dropWhile isNumberChar))

section Faults

variable {text : String}

theorem numberPart_eq (text : String) :
    numberPart text = (Text.trimChars text.toList).takeWhile isNumberChar := by
  rw [numberPart, Text.toList_trim]

theorem unitPart_eq (text : String) : unitPart text =
    Text.trim (String.ofList ((Text.trimChars text.toList).dropWhile isNumberChar)) := by
  rw [unitPart, Text.toList_trim]

theorem read_of_unnumbered (start : ∀ c, (Text.trim text).toList.head? = some c →
    c.isDigit = false ∧ c ≠ '.') : read text = .error .missingNumber := by
  have none : numberPart text = [] := by
    rw [numberPart]
    cases trimmed : (Text.trim text).toList with
    | nil => rfl
    | cons c rest =>
        obtain ⟨digit, point⟩ := start c (by rw [trimmed]; rfl)
        exact List.takeWhile_cons_of_neg (by simp [isNumberChar, digit, point])
  rw [read, ← numberPart_eq, none, List.isEmpty_nil, if_pos rfl]

theorem read_of_points (points : 1 < (numberPart text).count '.') :
    read text = .error .notANumber := by
  have nonempty : ¬(numberPart text).isEmpty = true := by
    intro empty
    rw [List.isEmpty_iff.mp empty] at points
    exact absurd points (by decide)
  simp only [read, ← numberPart_eq, if_neg nonempty, readNumber_eq_none points]

theorem read_of_unknown (unknown : ∀ size, ¬Denotes (unitPart text) size) :
    ∃ fault, read text = .error fault := by
  have none : multiplier (Text.lower (unitPart text)) = none :=
    Option.eq_none_iff_forall_ne_some.mpr fun size found =>
      unknown size (multiplier_lower_iff.mp found)
  simp only [read, ← unitPart_eq, none]
  split
  · exact ⟨_, rfl⟩
  · split <;> exact ⟨_, rfl⟩

end Faults

/-- Sizes are exact. Every whole number of every unit is read as so many times the bytes of the unit
where that is at most `2 ^ 53`, however it is spelled; and a text is refused that starts with neither
a digit nor a point, whose number has more than one point, or whose unit is none. -/
theorem exact_sizes :
    (∀ spelling : Spelling, spelling.number * spelling.size ≤ 2 ^ 53 →
      configuredSize spelling.text = .ok (spelling.number * spelling.size)) ∧
    ∀ text : String,
      ((∀ c, (Text.trim text).toList.head? = some c → c.isDigit = false ∧ c ≠ '.') →
        configuredSize text = .error (.invalidSize text "missing number")) ∧
      (1 < (numberPart text).count '.' →
        configuredSize text = .error (.invalidSize text "not a number")) ∧
      ((∀ size, ¬Denotes (unitPart text) size) →
        ∃ message, configuredSize text = .error (.invalidSize text message)) := by
  refine ⟨fun spelling small => ?_, fun text => ⟨fun start => ?_, fun points => ?_, fun unknown => ?_⟩⟩
  · obtain ⟨positive, bounded⟩ := spelling.denotes.size_bounds
    have whole : spelling.number ≤ 2 ^ 53 := (Nat.le_mul_of_pos_right _ positive).trans small
    apply configuredSize_of_read
    rw [read_spelling, ofWhole_exact bounded whole small]
  · exact configuredSize_of_fault (read_of_unnumbered start)
  · exact configuredSize_of_fault (read_of_points points)
  · obtain ⟨fault, read⟩ := read_of_unknown unknown
    exact ⟨fault.message, configuredSize_of_fault read⟩

def widest : Spelling where
  before := [' ', '\t']
  digits := "08192".toList
  between := ['\u00a0']
  unit := "tIb"
  after := ['\n']
  size := 1024 ^ 4
  denotes := ⟨"ti", by decide, .inr (by decide)⟩

theorem exact_sizes_of_widest :
    widest.number * widest.size ≤ 2 ^ 53 ∧ configuredSize widest.text = .ok 9007199254740992 ∧
    configuredSize " -5" = .error (.invalidSize " -5" "missing number") ∧
    configuredSize "1.2.3 kB" = .error (.invalidSize "1.2.3 kB" "not a number") ∧
    ∃ message, configuredSize "12 parsecs" = .error (.invalidSize "12 parsecs" message) := by
  obtain ⟨reads, refuses⟩ := exact_sizes
  have small : widest.number * widest.size ≤ 2 ^ 53 := by decide
  have unnumbered : (Text.trim " -5").toList.head? = some '-' := by decide +kernel
  have points : 1 < (numberPart "1.2.3 kB").count '.' := by decide +kernel
  have unknown : multiplier (Text.lower (unitPart "12 parsecs")) = none := by decide +kernel
  refine ⟨small, reads widest small, (refuses _).1 ?_, (refuses _).2.1 points, (refuses _).2.2 ?_⟩
  · intro c first
    obtain rfl := Option.some.inj (unnumbered.symm.trans first)
    decide
  · exact fun size denotes => nomatch unknown.symm.trans (multiplier_lower_iff.mpr denotes)

end ByteSize

end Gateway
