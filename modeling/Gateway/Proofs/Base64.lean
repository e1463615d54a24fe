import Gateway.Base64
import Gateway.Proofs.Utf8

/-!
Base64 as a code of bit strings. The bits of the bytes are taken off in groups of six, the last one
filled up with zeros, and each group is written as a letter of the alphabet; `=` fills the text up to
a multiple of four. What is written is read back as the bytes that it was written for.
-/

namespace Gateway.Base64

def bits : Nat → Nat → List Bool
  | 0, _ => []
  | width + 1, value => bits width (value / 2) ++ [decide (value % 2 = 1)]

theorem bits_join (width high : Nat) {rest low : Nat} (fits : low < 2 ^ rest) :
    bits (width + rest) (high * 2 ^ rest + low) = bits width high ++ bits rest low := by
  induction rest generalizing low with
  | zero =>
      obtain rfl : low = 0 := by simpa using fits
      simp [bits]
  | succ rest induction =>
      have power : 2 ^ (rest + 1) = 2 * 2 ^ rest := Nat.pow_succ'
      have shifted : high * 2 ^ (rest + 1) = 2 * (high * 2 ^ rest) := by
        rw [power, Nat.mul_left_comm]
      have upper : (high * 2 ^ (rest + 1) + low) / 2 = high * 2 ^ rest + low / 2 := by omega
      have last : (high * 2 ^ (rest + 1) + low) % 2 = low % 2 := by omega
      rw [← Nat.add_assoc, bits, upper, last, induction (by omega), List.append_assoc]
      rfl

theorem bits_split (width rest value : Nat) :
    bits (width + rest) value = bits width (value / 2 ^ rest) ++ bits rest (value % 2 ^ rest) := by
  rw [← bits_join width _ (Nat.mod_lt value (Nat.two_pow_pos rest)), Nat.div_add_mod']

def alphabet : List Char :=
  "ABCDEFGHIJKLMNOPQRSTUVWXYZabcdefghijklmnopqrstuvwxyz0123456789+/".toList

/-- A text is what Base64 makes of some bytes: letters for the values of six bits each, and padding. -/
inductive Spells (text : List Char) (bytes : Bytes) : Prop where
  | intro (values : List Nat) (letters : List Char) (filling padding : Nat)
      (regrouped : values.flatMap (bits 6) =
        bytes.flatMap (fun byte => bits 8 byte.toNat) ++ List.replicate filling false)
      (least : filling < 6)
      (lettered : letters.map some = values.map fun value => alphabet[value]?)
      (padded : text = letters ++ List.replicate padding '=') (short : padding < 4)
      (whole : text.length % 4 = 0)

theorem letter_eq {value : Nat} (small : value < 64) : some (letter value) = alphabet[value]? := by
  have table : ∀ value < 64, some (letter value) = alphabet[value]? := by decide
  exact table value small

section Groups

variable (a : Nat) {b c : Nat}

theorem bits_one : bits 6 (a / 4) ++ bits 6 (a % 4 * 16) = bits 8 a ++ List.replicate 4 false := by
  have second : bits 6 (a % 4 * 16) = bits 2 (a % 4) ++ bits 4 0 :=
    by simpa using bits_join 2 (a % 4) (show 0 < 2 ^ 4 by decide)
  have filled : bits 4 0 = List.replicate 4 false := by decide
  rw [second, filled, bits_split 6 2 a, List.append_assoc]
  rfl

theorem bits_two (small : b < 256) :
    bits 6 (a / 4) ++ bits 6 (a % 4 * 16 + b / 16) ++ bits 6 (b % 16 * 4) =
      bits 8 a ++ bits 8 b ++ List.replicate 2 false := by
  have second : bits 6 (a % 4 * 16 + b / 16) = bits 2 (a % 4) ++ bits 4 (b / 16) :=
    bits_join 2 (a % 4) (show b / 16 < 2 ^ 4 by omega)
  have third : bits 6 (b % 16 * 4) = bits 4 (b % 16) ++ bits 2 0 :=
    by simpa using bits_join 4 (b % 16) (show 0 < 2 ^ 2 by decide)
  have filled : bits 2 0 = List.replicate 2 false := by decide
  rw [second, third, filled, bits_split 6 2 a, bits_split 4 4 b]
  simp

theorem bits_three (smallB : b < 256) (smallC : c < 256) :
    bits 6 (a / 4) ++ bits 6 (a % 4 * 16 + b / 16) ++ bits 6 (b % 16 * 4 + c / 64) ++
      bits 6 (c % 64) = bits 8 a ++ bits 8 b ++ bits 8 c := by
  have second : bits 6 (a % 4 * 16 + b / 16) = bits 2 (a % 4) ++ bits 4 (b / 16) :=
    bits_join 2 (a % 4) (show b / 16 < 2 ^ 4 by omega)
  have third : bits 6 (b % 16 * 4 + c / 64) = bits 4 (b % 16) ++ bits 2 (c / 64) :=
    bits_join 4 (b % 16) (show c / 64 < 2 ^ 2 by omega)
  rw [second, third, bits_split 6 2 a, bits_split 4 4 b, bits_split 2 6 c]
  simp

end Groups

theorem encodeChars_spells (bytes : Bytes) : Spells (encodeChars bytes) bytes := by
  have byte (byte : UInt8) : byte.toNat < 256 := byte.toNat_lt
  fun_induction encodeChars bytes with
  | case1 => exact ⟨[], [], 0, 0, rfl, by omega, rfl, rfl, by omega, rfl⟩
  | case2 a =>
      have boundA := byte a
      refine ⟨[a.toNat / 4, a.toNat % 4 * 16], [letter (a.toNat / 4), letter (a.toNat % 4 * 16)],
        4, 2, ?_, by omega, ?_, rfl, by omega, by simp⟩
      · simpa using bits_one a.toNat
      · simp (disch := omega) [letter_eq]
  | case3 a b =>
      have boundA := byte a
      have boundB := byte b
      refine ⟨[a.toNat / 4, a.toNat % 4 * 16 + b.toNat / 16, b.toNat % 16 * 4],
        [letter (a.toNat / 4), letter (a.toNat % 4 * 16 + b.toNat / 16),
          letter (b.toNat % 16 * 4)], 2, 1, ?_, by omega, ?_, rfl, by omega, by simp⟩
      · simpa using bits_two a.toNat boundB
      · simp (disch := omega) [letter_eq]
  | case4 a b c rest induction =>
      have boundA := byte a
      have boundB := byte b
      have boundC := byte c
      obtain ⟨values, letters, filling, padding, regrouped, least, lettered, padded, short, whole⟩ :=
        induction
      refine ⟨a.toNat / 4 :: (a.toNat % 4 * 16 + b.toNat / 16) :: (b.toNat % 16 * 4 + c.toNat / 64) ::
        c.toNat % 64 :: values, letter (a.toNat / 4) :: letter (a.toNat % 4 * 16 + b.toNat / 16) ::
        letter (b.toNat % 16 * 4 + c.toNat / 64) :: letter (c.toNat % 64) :: letters,
        filling, padding, ?_, least, ?_, ?_, short, ?_⟩
      · have group := bits_three a.toNat boundB boundC
        simp only [List.flatMap_cons, regrouped, ← List.append_assoc] at group ⊢
        rw [group]
      · simp (disch := omega) [letter_eq, lettered]
      · rw [padded]
        rfl
      · simp only [List.length_cons]
        omega

theorem letter_code (value : Nat) :
    32 ≤ (letter value).toNat ∧ (letter value).toNat ≠ 127 := by
  unfold letter
  repeat' split
  all_goals first | decide | rw [Utf8.toNat_ofNat_ascii (by omega)]; omega

theorem encodeChars_code {bytes : Bytes} {c : Char} (member : c ∈ encodeChars bytes) :
    32 ≤ c.toNat ∧ c.toNat ≠ 127 := by
  have padding : 32 ≤ '='.toNat ∧ '='.toNat ≠ 127 := by decide
  fun_induction encodeChars bytes with
  | case1 => contradiction
  | case2 a =>
      simp only [List.mem_cons, List.not_mem_nil, or_false] at member
      rcases member with rfl | rfl | rfl | rfl <;> first | exact letter_code _ | exact padding
  | case3 a b =>
      simp only [List.mem_cons, List.not_mem_nil, or_false] at member
      rcases member with rfl | rfl | rfl | rfl <;> first | exact letter_code _ | exact padding
  | case4 a b c rest induction =>
      simp only [List.mem_cons] at member
      rcases member with rfl | rfl | rfl | rfl | later
      · exact letter_code _
      · exact letter_code _
      · exact letter_code _
      · exact letter_code _
      · exact induction later

theorem value?_letter {value : Nat} (small : value < 64) : value? (letter value) = some value := by
  have table : ∀ value < 64, value? (letter value) = some value := by decide
  exact table value small

theorem letter_ne_padding {value : Nat} (small : value < 64) : letter value ≠ '=' := by
  have table : ∀ value < 64, letter value ≠ '=' := by decide
  exact table value small

theorem toUInt8_eq {value : Nat} {byte : UInt8} (same : value = byte.toNat) :
    value.toUInt8 = byte := by
  rw [same]
  exact UInt8.ofNat_toNat

/-- What is written is read back as the bytes that it was written for. -/
theorem decodeChars?_encodeChars (bytes : Bytes) :
    decodeChars? (encodeChars bytes) = some bytes := by
  have byte (byte : UInt8) : byte.toNat < 256 := byte.toNat_lt
  fun_induction encodeChars bytes with
  | case1 => rfl
  | case2 a =>
      have boundA := byte a
      have first : (a.toNat / 4 * 4 + a.toNat % 4 * 16 / 16).toUInt8 = a := toUInt8_eq (by omega)
      simp (disch := omega) only [decodeChars?, value?_letter, Option.bind_eq_bind,
        Option.bind_some, Nat.mul_mod_left, and_self, if_true, first]
  | case3 a b =>
      have boundA := byte a
      have boundB := byte b
      have first : (a.toNat / 4 * 4 + (a.toNat % 4 * 16 + b.toNat / 16) / 16).toUInt8 = a :=
        toUInt8_eq (by omega)
      have second : ((a.toNat % 4 * 16 + b.toNat / 16) % 16 * 16 + b.toNat % 16 * 4 / 4).toUInt8 =
          b := toUInt8_eq (by omega)
      simp (disch := omega) only [decodeChars?, value?_letter, letter_ne_padding,
        Option.bind_eq_bind, Option.bind_some, Nat.mul_mod_left, and_self, if_true, if_false, first,
        second]
  | case4 a b c rest induction =>
      have boundA := byte a
      have boundB := byte b
      have boundC := byte c
      have first : (a.toNat / 4 * 4 + (a.toNat % 4 * 16 + b.toNat / 16) / 16).toUInt8 = a :=
        toUInt8_eq (by omega)
      have second : ((a.toNat % 4 * 16 + b.toNat / 16) % 16 * 16 +
          (b.toNat % 16 * 4 + c.toNat / 64) / 4).toUInt8 = b := toUInt8_eq (by omega)
      have third : ((b.toNat % 16 * 4 + c.toNat / 64) % 4 * 64 + c.toNat % 64).toUInt8 = c :=
        toUInt8_eq (by omega)
      simp (disch := omega) only [decodeChars?, value?_letter, letter_ne_padding, induction,
        Option.bind_eq_bind, Option.bind_some, if_false, first, second, third]

theorem decode?_encode (bytes : Bytes) : decode? (encode bytes) = some bytes := by
  rw [decode?, encode, String.toList_ofList, decodeChars?_encodeChars]

end Gateway.Base64
