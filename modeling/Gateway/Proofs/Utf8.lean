import Gateway.Text.Utf8
import Mathlib.Data.String.Basic
import Mathlib.Tactic.SplitIfs

/-!
Reading what was written. The bytes of a character are read back as that character and nothing of
what follows, so the bytes of a text are read back as the text, by the strict reader and by the one
that replaces faults. Texts come in the order of their bytes.
-/

namespace Gateway.Utf8

theorem toNat_toUInt8 {code : Nat} (small : code < 256) : code.toUInt8.toNat = code := by
  simp only [Nat.toUInt8, UInt8.toNat_ofNat', Nat.reducePow]
  exact Nat.mod_eq_of_lt small

theorem toNat_ofNat_ascii {code : Nat} (ascii : code < 0x80) : (Char.ofNat code).toNat = code := by
  unfold Char.ofNat
  rw [dif_pos (Or.inl (by omega))]
  rfl

theorem code_bounds (c : Char) : c.toNat < 0xD800 ∨ 0xDFFF < c.toNat ∧ c.toNat < 0x110000 :=
  c.valid

theorem isContinuation_low (code : Nat) : isContinuation (0x80 + code % 64).toUInt8 = true := by
  rw [isContinuation, inRange, toNat_toUInt8 (by omega)]
  simp only [Bool.and_eq_true, decide_eq_true_eq]
  omega

variable {code : Nat} (rest : Bytes)

theorem readChar_one (high : code < 0x80) :
    readChar code.toUInt8 rest = (some (Char.ofNat code), 0) := by
  simp only [readChar, toNat_toUInt8 (show code < 256 by omega)]
  rw [if_pos high]

theorem readChar_two (low : 0x80 ≤ code) (high : code < 0x800) :
    readChar (0xC0 + code / 64).toUInt8 ((0x80 + code % 64).toUInt8 :: rest) =
      (some (Char.ofNat code), 1) := by
  have lead : (0xC0 + code / 64).toUInt8.toNat = 0xC0 + code / 64 := toNat_toUInt8 (by omega)
  have last : (0x80 + code % 64).toUInt8.toNat = 0x80 + code % 64 := toNat_toUInt8 (by omega)
  have joined : (0xC0 + code / 64 - 0xC0) * 64 + (0x80 + code % 64 - 0x80) = code := by omega
  simp only [readChar, lead, last, isContinuation_low, joined]
  rw [if_neg (by omega), if_neg (by omega), if_pos (by omega), if_pos trivial]

/-- The second byte after a lead byte of three has the range that leaves out the surrogates and the
codes that two bytes can write. -/
theorem inRange_three (low : 0x800 ≤ code) (high : code < 0x10000)
    (scalar : code < 0xD800 ∨ 0xDFFF < code) :
    inRange (secondRange (0xE0 + code / 4096)) (0x80 + code / 64 % 64).toUInt8 = true := by
  simp only [inRange, toNat_toUInt8 (show 0x80 + code / 64 % 64 < 256 by omega), Bool.and_eq_true,
    decide_eq_true_eq]
  unfold secondRange
  repeat' split
  all_goals dsimp only; omega

theorem readChar_three (low : 0x800 ≤ code) (high : code < 0x10000)
    (scalar : code < 0xD800 ∨ 0xDFFF < code) :
    readChar (0xE0 + code / 4096).toUInt8
      ((0x80 + code / 64 % 64).toUInt8 :: (0x80 + code % 64).toUInt8 :: rest) =
      (some (Char.ofNat code), 2) := by
  have lead : (0xE0 + code / 4096).toUInt8.toNat = 0xE0 + code / 4096 := toNat_toUInt8 (by omega)
  have second : (0x80 + code / 64 % 64).toUInt8.toNat = 0x80 + code / 64 % 64 :=
    toNat_toUInt8 (by omega)
  have last : (0x80 + code % 64).toUInt8.toNat = 0x80 + code % 64 := toNat_toUInt8 (by omega)
  have joined : (0xE0 + code / 4096 - 0xE0) * 4096 + (0x80 + code / 64 % 64 - 0x80) * 64 +
      (0x80 + code % 64 - 0x80) = code := by omega
  simp only [readChar, lead, second, last, isContinuation_low, inRange_three low high scalar, joined]
  rw [if_neg (by omega), if_neg (by omega), if_neg (by omega), if_pos (by omega), if_pos trivial,
    if_pos trivial]

theorem inRange_four (low : 0x10000 ≤ code) (high : code < 0x110000) :
    inRange (secondRange (0xF0 + code / 262144)) (0x80 + code / 4096 % 64).toUInt8 = true := by
  simp only [inRange, toNat_toUInt8 (show 0x80 + code / 4096 % 64 < 256 by omega),
    Bool.and_eq_true, decide_eq_true_eq]
  unfold secondRange
  repeat' split
  all_goals dsimp only; omega

theorem readChar_four (low : 0x10000 ≤ code) (high : code < 0x110000) :
    readChar (0xF0 + code / 262144).toUInt8
      ((0x80 + code / 4096 % 64).toUInt8 :: (0x80 + code / 64 % 64).toUInt8 ::
        (0x80 + code % 64).toUInt8 :: rest) = (some (Char.ofNat code), 3) := by
  have lead : (0xF0 + code / 262144).toUInt8.toNat = 0xF0 + code / 262144 :=
    toNat_toUInt8 (by omega)
  have second : (0x80 + code / 4096 % 64).toUInt8.toNat = 0x80 + code / 4096 % 64 :=
    toNat_toUInt8 (by omega)
  have third : (0x80 + code / 64 % 64).toUInt8.toNat = 0x80 + code / 64 % 64 :=
    toNat_toUInt8 (by omega)
  have last : (0x80 + code % 64).toUInt8.toNat = 0x80 + code % 64 := toNat_toUInt8 (by omega)
  have joined : (0xF0 + code / 262144 - 0xF0) * 262144 +
      (0x80 + code / 4096 % 64 - 0x80) * 4096 + (0x80 + code / 64 % 64 - 0x80) * 64 +
      (0x80 + code % 64 - 0x80) = code := by omega
  simp only [readChar, lead, second, third, last, isContinuation_low, inRange_four low high, joined]
  rw [if_neg (by omega), if_neg (by omega), if_neg (by omega), if_neg (by omega),
    if_pos (by omega), if_pos trivial, if_pos trivial, if_pos trivial]

/-- The bytes of a character, in front of others, are read as the character. -/
theorem units_encodeChar_append (c : Char) :
    units (encodeChar c ++ rest) = some c :: units rest := by
  have back : Char.ofNat c.toNat = c := Char.ofNat_toNat c
  have bounds := code_bounds c
  unfold encodeChar
  dsimp only
  -- one case for each width; the bounds of the code say which reading applies
  split
  · rename_i one
    rw [List.singleton_append, units, readChar_one rest one, back]
    rfl
  · split
    · rw [List.cons_append, List.singleton_append, units, readChar_two rest (by omega) (by omega),
        back]
      rfl
    · split
      · simp only [List.cons_append, List.nil_append]
        rw [units, readChar_three rest (by omega) (by omega) (by omega), back]
        rfl
      · simp only [List.cons_append, List.nil_append]
        rw [units, readChar_four rest (by omega) (by omega), back]
        rfl

theorem units_encodeChars (chars : List Char) : units (encodeChars chars) = chars.map some := by
  induction chars with
  | nil => simp [encodeChars, units]
  | cons c chars induction =>
      rw [encodeChars, List.flatMap_cons, units_encodeChar_append]
      exact congrArg (some c :: ·) induction

theorem decodeLossy_encode (text : String) : decodeLossy (encode text) = text := by
  have read : ((text.toList.map some).map fun unit => unit.getD replacement) = text.toList := by
    rw [List.map_map]
    exact List.map_id _
  rw [decodeLossy, encode, units_encodeChars, read, String.ofList_toList]

theorem decode?_encode (text : String) : decode? (encode text) = some text := by
  have read (chars : List Char) : (chars.map some).mapM id = some chars := by
    induction chars with
    | nil => rfl
    | cons c rest induction => rw [List.map_cons, List.mapM_cons, induction]; rfl
  rw [decode?, encode, units_encodeChars, read, Option.map_some, String.ofList_toList]

theorem encode_injective {left right : String} (same : encode left = encode right) :
    left = right := by
  rw [← decodeLossy_encode left, same, decodeLossy_encode]

theorem encodeChar_ascii {c : Char} (ascii : c.toNat < 0x80) : encodeChar c = [c.toNat.toUInt8] := by
  unfold encodeChar
  exact if_pos ascii

theorem encodeChars_ascii {chars : List Char} (ascii : ∀ c ∈ chars, c.toNat < 0x80) :
    encodeChars chars = chars.map fun c => c.toNat.toUInt8 := by
  induction chars with
  | nil => rfl
  | cons c chars induction =>
      rw [encodeChars, List.flatMap_cons, encodeChar_ascii (ascii c List.mem_cons_self)]
      exact congrArg (c.toNat.toUInt8 :: ·)
        (induction fun d member => ascii d (List.mem_cons_of_mem c member))

theorem encodeChars_append (front back : List Char) :
    encodeChars (front ++ back) = encodeChars front ++ encodeChars back :=
  List.flatMap_append

theorem encode_append (front back : String) : encode (front ++ back) = encode front ++ encode back := by
  rw [encode, String.toList_append, encodeChars_append]
  rfl

theorem toUInt8_lt_iff {low high : Nat} (small : low < 256) (other : high < 256) :
    low.toUInt8 < high.toUInt8 ↔ low < high := by
  rw [UInt8.lt_iff_toNat_lt, toNat_toUInt8 small, toNat_toUInt8 other]

theorem toUInt8_eq_iff {low high : Nat} (small : low < 256) (other : high < 256) :
    low.toUInt8 = high.toUInt8 ↔ low = high := by
  rw [← UInt8.toNat_inj, toNat_toUInt8 small, toNat_toUInt8 other]

/-- Characters come in the order of their bytes, whatever follows them. -/
theorem encodeChar_lt {c d : Char} (less : c < d) (front back : Bytes) :
    encodeChar c ++ front < encodeChar d ++ back := by
  have codes : c.toNat < d.toNat := less
  have lower := code_bounds c
  have upper := code_bounds d
  unfold encodeChar
  dsimp only
  -- a wider character has the greater lead byte; between two alike the first digit decides that differs
  split_ifs
  all_goals
    simp (disch := omega) only [List.cons_append, List.nil_append, List.cons_lt_cons_iff,
      toUInt8_lt_iff, toUInt8_eq_iff]
  all_goals omega

theorem encodeChar_ne_nil (c : Char) : encodeChar c ≠ [] := by
  unfold encodeChar
  dsimp only
  split_ifs <;> simp

theorem encodeChars_lt {left right : List Char} (less : left < right) :
    encodeChars left < encodeChars right := by
  induction right generalizing left with
  | nil => exact absurd less (List.not_lt_nil left)
  | cons d right induction =>
      cases left with
      | nil =>
          obtain ⟨lead, rest, bytes⟩ := List.exists_cons_of_ne_nil (encodeChar_ne_nil d)
          rw [encodeChars, encodeChars, List.flatMap_nil, List.flatMap_cons, bytes]
          exact List.nil_lt_cons _ _
      | cons c left =>
          rcases List.cons_lt_cons_iff.mp less with head | ⟨rfl, tail⟩
          · exact encodeChar_lt head _ _
          · exact List.append_left_lt (induction tail)

theorem encode_lt {left right : String} (less : left < right) : encode left < encode right :=
  encodeChars_lt (String.lt_iff_toList_lt.mp less)

end Gateway.Utf8
