import Gateway.Introspection.Exchange
import Gateway.Proofs.Evaluation
import Gateway.Proofs.HeaderSafety
import Gateway.Proofs.Utf8
import Gateway.Scope

/-!
Forms as they go over the wire. Whatever texts a list of parameters holds, the separators of its
written form are those between the parameters, so the reader of queries gives the list back. The
server behind a call with a token therefore reads the token and the credentials that the method puts
into a form, and an expression for a query parameter has the value of the first one of its name.
-/

namespace Gateway

namespace Form

theorem percentDecode_cons {byte : UInt8} (plain : byte ≠ 37) (rest : Bytes) :
    percentDecode (byte :: rest) = byte :: percentDecode rest := by
  match rest with
  | [] => rfl
  | [_] => rfl
  | _ :: _ :: _ => exact if_neg plain

def written (byte : UInt8) : Bytes :=
  Utf8.encodeChars (encodeByte byte)

theorem hexDigit_code {value : Nat} (small : value < 16) :
    (hexDigit value).toNat = if value < 10 then 48 + value else 55 + value := by
  unfold hexDigit
  split <;> exact Utf8.toNat_ofNat_ascii (by omega)

theorem hexValue?_hexDigit {value : Nat} (small : value < 16) :
    hexValue? (hexDigit value).toNat.toUInt8 = some value := by
  have code := hexDigit_code small
  unfold hexValue?
  dsimp only
  rw [code]
  split
  · rw [Utf8.toNat_toUInt8 (by omega), if_pos (by omega)]
    congr 1
    omega
  · rw [Utf8.toNat_toUInt8 (by omega), if_neg (by omega), if_pos (by omega)]
    congr 1
    omega

theorem isPlain_code {byte : UInt8} (plain : isPlain byte = true) :
    byte.toNat < 0x80 ∧ byte.toNat ≠ 37 ∧ byte.toNat ≠ 43 := by
  simp only [isPlain, Bool.or_eq_true, Bool.and_eq_true, decide_eq_true_eq] at plain
  omega

theorem isPlain_hexDigit {value : Nat} (small : value < 16) :
    isPlain (hexDigit value).toNat.toUInt8 = true := by
  have code := hexDigit_code small
  have kept : (hexDigit value).toNat.toUInt8.toNat = (hexDigit value).toNat :=
    Utf8.toNat_toUInt8 (by split at code <;> omega)
  simp only [isPlain, kept, Bool.or_eq_true, Bool.and_eq_true, decide_eq_true_eq]
  split at code <;> omega

def isWritten (byte : UInt8) : Bool :=
  isPlain byte || byte = 43 || byte = 37

theorem encodeByte_code {byte : UInt8} {c : Char} (member : c ∈ encodeByte byte) :
    c.toNat < 0x80 ∧ isWritten c.toNat.toUInt8 = true := by
  unfold encodeByte at member
  split at member
  · rename_i plain
    have ascii := (isPlain_code plain).1
    have own : (Char.ofNat byte.toNat).toNat.toUInt8 = byte := by
      rw [Utf8.toNat_ofNat_ascii ascii]
      exact UInt8.ofNat_toNat
    rw [List.mem_singleton.mp member, own, Utf8.toNat_ofNat_ascii ascii]
    exact ⟨ascii, by simp [isWritten, plain]⟩
  · split at member
    · rw [List.mem_singleton.mp member]
      decide
    · have bound : byte.toNat < 256 := byte.toNat_lt
      have digit {value : Nat} (small : value < 16) : (hexDigit value).toNat < 0x80 ∧
          isWritten (hexDigit value).toNat.toUInt8 = true := by
        have code := hexDigit_code small
        refine ⟨by split at code <;> omega, ?_⟩
        rw [isWritten, isPlain_hexDigit small]
        rfl
      simp only [List.mem_cons, List.not_mem_nil, or_false] at member
      rcases member with rfl | rfl | rfl
      · decide
      · exact digit (by omega)
      · exact digit (by omega)

theorem written_eq (byte : UInt8) :
    written byte = (encodeByte byte).map fun c => c.toNat.toUInt8 :=
  Utf8.encodeChars_ascii fun _ member => (encodeByte_code member).1

theorem isWritten_of_mem {byte within : UInt8} (member : within ∈ written byte) :
    isWritten within = true := by
  rw [written_eq] at member
  obtain ⟨c, listed, rfl⟩ := List.mem_map.mp member
  exact (encodeByte_code listed).2

theorem plusToBlank_append (front back : Bytes) :
    plusToBlank (front ++ back) = plusToBlank front ++ plusToBlank back :=
  List.map_append

theorem plusToBlank_hexDigit {value : Nat} (small : value < 16) :
    plusToBlank [(hexDigit value).toNat.toUInt8] = [(hexDigit value).toNat.toUInt8] := by
  have code := hexDigit_code small
  have own : (hexDigit value).toNat.toUInt8 ≠ 43 := by
    intro same
    have equal := congrArg UInt8.toNat same
    rw [Utf8.toNat_toUInt8 (by split at code <;> omega), code] at equal
    change (if value < 10 then 48 + value else 55 + value) = 43 at equal
    split at equal <;> omega
  exact congrArg ([·]) (if_neg own)

theorem percentDecode_written (byte : UInt8) (rest : Bytes) :
    percentDecode (plusToBlank (written byte) ++ rest) = byte :: percentDecode rest := by
  rw [written_eq]
  unfold encodeByte
  -- a byte stands for itself, is a blank, or is written as two digits
  split
  · rename_i plain
    obtain ⟨ascii, percent, plus⟩ := isPlain_code plain
    have own : (Char.ofNat byte.toNat).toNat.toUInt8 = byte := by
      rw [Utf8.toNat_ofNat_ascii ascii]
      exact UInt8.ofNat_toNat
    have kept : plusToBlank [byte] = [byte] :=
      congrArg ([·]) (if_neg fun same => plus (congrArg UInt8.toNat same))
    rw [List.map_singleton, own, kept]
    exact percentDecode_cons (fun same => percent (congrArg UInt8.toNat same)) rest
  · split
    · rename_i blank
      rw [blank]
      exact percentDecode_cons (by decide) rest
    · have bound : byte.toNat < 256 := byte.toNat_lt
      have high : byte.toNat / 16 < 16 := by omega
      have low : byte.toNat % 16 < 16 := by omega
      have kept : plusToBlank (['%', hexDigit (byte.toNat / 16), hexDigit (byte.toNat % 16)].map
          fun c => c.toNat.toUInt8) = [37, (hexDigit (byte.toNat / 16)).toNat.toUInt8,
            (hexDigit (byte.toNat % 16)).toNat.toUInt8] := by
        have first := plusToBlank_hexDigit high
        have second := plusToBlank_hexDigit low
        simp only [plusToBlank, List.map_cons, List.map_nil, List.cons.injEq, and_true]
          at first second ⊢
        exact ⟨by decide, first, second⟩
      have joined : byte.toNat / 16 * 16 + byte.toNat % 16 = byte.toNat := by omega
      rw [kept]
      simp only [List.cons_append, List.nil_append, percentDecode, if_true,
        hexValue?_hexDigit high, hexValue?_hexDigit low, joined]
      exact congrArg (· :: percentDecode rest) UInt8.ofNat_toNat

theorem percentDecode_flatMap_written (bytes : Bytes) :
    percentDecode (plusToBlank (bytes.flatMap written)) = bytes := by
  induction bytes with
  | nil => rfl
  | cons byte bytes induction =>
      rw [List.flatMap_cons, plusToBlank_append, percentDecode_written, induction]

theorem encode_encodeComponent (text : String) :
    Utf8.encode (encodeComponent text) = (Utf8.encode text).flatMap written := by
  rw [Utf8.encode, encodeComponent, String.toList_ofList, encodeBytes, Utf8.encodeChars,
    List.flatMap_assoc]
  rfl

theorem decodeComponent_encodeComponent (text : String) :
    decodeComponent (Utf8.encode (encodeComponent text)) = text := by
  rw [encode_encodeComponent, decodeComponent, percentDecode_flatMap_written,
    Utf8.decodeLossy_encode]

theorem encodeComponent_free {text : String} {separator : UInt8}
    (special : isWritten separator = false) : separator ∉ Utf8.encode (encodeComponent text) := by
  intro member
  rw [encode_encodeComponent] at member
  obtain ⟨_, _, within⟩ := List.mem_flatMap.mp member
  rw [isWritten_of_mem within] at special
  contradiction

section Separators

variable {separator : UInt8} {part : Bytes}

theorem splitOn_ne_nil (bytes : Bytes) : splitOn separator bytes ≠ [] := by
  cases bytes with
  | nil => simp [splitOn]
  | cons byte rest =>
      rw [splitOn]
      split
      · simp
      · split <;> simp

theorem splitOn_separator (rest : Bytes) :
    splitOn separator (separator :: rest) = [] :: splitOn separator rest := by
  rw [splitOn]
  split
  · exact absurd ‹_› (splitOn_ne_nil rest)
  · rename_i found
    rw [if_pos rfl, found]

theorem splitOn_cons {byte : UInt8} {first : Bytes} {bytes : Bytes} {parts : List Bytes}
    (other : byte ≠ separator) (found : splitOn separator bytes = first :: parts) :
    splitOn separator (byte :: bytes) = (byte :: first) :: parts := by
  rw [splitOn, found]
  exact if_neg other

theorem splitOn_append (free : separator ∉ part) (rest : Bytes) :
    splitOn separator (part ++ separator :: rest) = part :: splitOn separator rest := by
  induction part with
  | nil => exact splitOn_separator rest
  | cons byte part induction =>
      rw [List.mem_cons, not_or] at free
      exact splitOn_cons (Ne.symm free.1) (induction free.2)

theorem splitOn_free (free : separator ∉ part) : splitOn separator part = [part] := by
  induction part with
  | nil => rfl
  | cons byte part induction =>
      rw [List.mem_cons, not_or] at free
      exact splitOn_cons (Ne.symm free.1) (induction free.2)

theorem splitFirst_append (free : separator ∉ part) (rest : Bytes) :
    splitFirst separator (part ++ separator :: rest) = (part, rest) := by
  have before : ∀ byte ∈ part, decide (byte ≠ separator) = true := by
    intro byte member
    exact decide_eq_true fun same => free (same ▸ member)
  rw [splitFirst, List.takeWhile_append_of_pos before, List.dropWhile_append_of_pos before,
    List.takeWhile_cons_of_neg (by simp), List.dropWhile_cons_of_neg (by simp), List.append_nil]
  rfl

end Separators

namespace Params

def pairBytes (param : String × String) : Bytes :=
  Utf8.encode (encodeComponent param.1) ++ 61 :: Utf8.encode (encodeComponent param.2)

theorem encode_encodePair (param : String × String) :
    Utf8.encode (encodePair param) = pairBytes param := by
  have equals : Utf8.encode "=" = [61] := by decide
  rw [encodePair, Utf8.encode_append, Utf8.encode_append, equals, List.append_assoc,
    List.singleton_append, pairBytes]

theorem pairBytes_free (param : String × String) : 38 ∉ pairBytes param := by
  intro member
  rcases List.mem_append.mp member with key | value
  · exact encodeComponent_free (by decide) key
  · rcases List.mem_cons.mp value with equals | value
    · exact absurd equals (by decide)
    · exact encodeComponent_free (by decide) value

theorem encode_singleton (param : String × String) : encode [param] = encodePair param :=
  String.intercalate_singleton

theorem encode_cons_cons (param next : String × String) (params : Params) :
    encode (param :: next :: params) = encodePair param ++ "&" ++ encode (next :: params) :=
  String.intercalate_cons_cons

theorem splitOn_encode (param : String × String) (params : Params) :
    splitOn 38 (Utf8.encode (encode (param :: params))) = (param :: params).map pairBytes := by
  induction params generalizing param with
  | nil =>
      rw [encode_singleton, encode_encodePair, splitOn_free (pairBytes_free param), List.map_singleton]
  | cons next params induction =>
      have joined : Utf8.encode (encode (param :: next :: params)) =
          pairBytes param ++ 38 :: Utf8.encode (encode (next :: params)) := by
        have ampersand : Utf8.encode "&" = [38] := by decide
        rw [encode_cons_cons, Utf8.encode_append, Utf8.encode_append, encode_encodePair, ampersand,
          List.append_assoc, List.singleton_append]
      rw [joined, splitOn_append (pairBytes_free param), induction]
      rfl

theorem decode_pairBytes (param : String × String) :
    (decodeComponent (splitFirst 61 (pairBytes param)).1,
      decodeComponent (splitFirst 61 (pairBytes param)).2) = param := by
  have free : 61 ∉ Utf8.encode (encodeComponent param.1) :=
    encodeComponent_free (by decide)
  rw [pairBytes, splitFirst_append free, decodeComponent_encodeComponent,
    decodeComponent_encodeComponent]

/-- A written form is read back as the parameters it was written for, in their order. -/
theorem parse_encode (params : Params) : parse (Utf8.encode params.encode) = params := by
  cases params with
  | nil => decide
  | cons param params =>
      -- empty parts are dropped by the reader, but even an empty parameter is written with its sign
      have kept : ((param :: params).map pairBytes).filter (fun part => !part.isEmpty) =
          (param :: params).map pairBytes := by
        rw [List.filter_eq_self]
        intro part member
        obtain ⟨_, _, rfl⟩ := List.mem_map.mp member
        simp [pairBytes]
      rw [parse, splitOn_encode, kept, List.map_map]
      conv_rhs => rw [← List.map_id (param :: params)]
      exact List.map_congr_left fun param _ => decode_pairBytes param

end Params

end Form

end Gateway
