import Gateway.Json.Parser
import Gateway.Json.Printer
import Gateway.Proofs.Utf8

/-!
JSON text is read back. A string is read character by character up to its closing quote, whatever it
holds; a number ends where no digit follows; an object gives its members in their order. What a
value is written as is read as this value in front of everything that can follow a value.
-/

namespace Gateway.Json

theorem hexValue?_hexDigit {n : Nat} (small : n < 16) : hexValue? (hexDigit n) = some n := by
  have all : ∀ n < 16, hexValue? (hexDigit n) = some n := by decide
  exact all n small

theorem readHex4_hexDigit {code : Nat} (small : code < 256) (rest : List Char) :
    readHex4 ('0' :: '0' :: hexDigit (code / 16) :: hexDigit (code % 16) :: rest) =
      some (code, rest) := by
  have zero : hexValue? '0' = some 0 := rfl
  have whole : 0 * 4096 + 0 * 256 + code / 16 * 16 + code % 16 = code := by omega
  simp only [readHex4, zero, hexValue?_hexDigit (show code / 16 < 16 by omega),
    hexValue?_hexDigit (show code % 16 < 16 by omega), Option.bind_eq_bind, Option.bind_some, whole]
  rfl

theorem escapeChar_cases (c : Char) :
    (escapeChar c = [c] ∧ c ≠ '"' ∧ c ≠ '\\' ∧ ¬c.toNat < 0x20) ∨
      ∃ escaped, escapeChar c = '\\' :: escaped ∧ '\x7b' ∉ escaped ∧
        ∀ rest, readEscape (escaped ++ rest) = some (c, rest) := by
  have named {code : Nat} (same : c.toNat = code) : Char.ofNat code = c := by
    rw [← same, Char.ofNat_toNat]
  by_cases quoted : c = '"'
  · subst quoted
    exact .inr ⟨['"'], rfl, by decide, fun _ => rfl⟩
  by_cases slash : c = '\\'
  · subst slash
    exact .inr ⟨['\\'], rfl, by decide, fun _ => rfl⟩
  by_cases newline : c = '\n'
  · subst newline
    exact .inr ⟨['n'], rfl, by decide, fun _ => rfl⟩
  by_cases carriage : c = '\r'
  · subst carriage
    exact .inr ⟨['r'], rfl, by decide, fun _ => rfl⟩
  by_cases tab : c = '\t'
  · subst tab
    exact .inr ⟨['t'], rfl, by decide, fun _ => rfl⟩
  by_cases back : c.toNat = 8
  · rw [← named back]
    exact .inr ⟨['b'], rfl, by decide, fun _ => rfl⟩
  by_cases form : c.toNat = 12
  · rw [← named form]
    exact .inr ⟨['f'], rfl, by decide, fun _ => rfl⟩
  rw [escapeChar, if_neg quoted, if_neg slash, if_neg newline, if_neg carriage, if_neg tab,
    if_neg back, if_neg form]
  by_cases control : c.toNat < 0x20
  · have digits : ∀ n < 16, '\x7b' ≠ hexDigit n := by decide
    have high := digits (c.toNat / 16) (by omega)
    have low := digits (c.toNat % 16) (by omega)
    have unpaired : ¬(0xD800 ≤ c.toNat) ∧ ¬(0xDC00 ≤ c.toNat) := by omega
    rw [if_pos control]
    refine .inr ⟨_, rfl, by simp [high, low], fun rest => ?_⟩
    change readEscape ('u' :: '0' :: '0' :: _ :: _ :: rest) = _
    rw [readEscape, readHex4_hexDigit (by omega)]
    simp only [isHighSurrogate, isLowSurrogate, unpaired, named rfl, Option.bind_eq_bind,
      Option.bind_some, decide_false, Bool.false_and, Bool.false_eq_true]
    rfl
  · rw [if_neg control]
    exact .inl ⟨rfl, quoted, slash, control⟩

theorem readString_escapeChar (c : Char) (fuel : Nat) (rest : List Char) :
    readString (fuel + 1) (escapeChar c ++ rest) =
      (readString fuel rest).map fun (more, after) => (c :: more, after) := by
  obtain ⟨same, quoted, slash, control⟩ | ⟨escaped, slashed, -, read⟩ := escapeChar_cases c
  · rw [same, List.singleton_append, readString, if_neg quoted, if_neg slash, if_neg control]
    cases readString fuel rest <;> rfl
  · rw [slashed, List.cons_append, readString, if_neg (by decide), if_pos rfl, read]
    simp only [Option.bind_eq_bind, Option.bind_some]
    cases readString fuel rest <;> rfl

theorem escapeChars_cons (c : Char) (rest : List Char) :
    escapeChars (c :: rest) = escapeChar c ++ escapeChars rest :=
  List.flatMap_cons

theorem escapeChars_append (front back : List Char) :
    escapeChars (front ++ back) = escapeChars front ++ escapeChars back :=
  List.flatMap_append

theorem readString_escapeChars (chars rest : List Char) {fuel : Nat}
    (enough : chars.length < fuel) :
    readString fuel (escapeChars chars ++ '"' :: rest) = some (chars, rest) := by
  induction chars generalizing fuel with
  | nil =>
      obtain ⟨fuel, rfl⟩ := Nat.exists_eq_add_of_lt enough
      rfl
  | cons c chars induction =>
      obtain ⟨fuel, rfl⟩ := Nat.exists_eq_add_of_lt enough
      rw [escapeChars_cons, List.append_assoc, readString_escapeChar,
        induction (by rw [List.length_cons]; omega)]
      rfl

theorem length_le_escapeChars (chars : List Char) : chars.length ≤ (escapeChars chars).length := by
  induction chars with
  | nil => exact Nat.le_refl 0
  | cons c chars induction =>
      have one : 0 < (escapeChar c).length := by
        obtain ⟨same, -⟩ | ⟨escaped, slashed, -⟩ := escapeChar_cases c
        · rw [same]
          exact Nat.one_pos
        · rw [slashed]
          exact Nat.succ_pos _
      rw [escapeChars_cons, List.length_append, List.length_cons]
      omega

theorem readText_escape (text : String) (rest : List Char) :
    readText ((escape text).toList ++ '"' :: rest) = some (text, rest) := by
  have least := length_le_escapeChars text.toList
  have enough : text.toList.length < (escapeChars text.toList ++ '"' :: rest).length + 1 := by
    rw [List.length_append]
    omega
  rw [escape, String.toList_ofList, readText, readString_escapeChars _ _ enough, Option.map_some]
  dsimp only
  rw [String.ofList_toList]

theorem toList_quote (text : String) :
    (quote text).toList = '"' :: ((escape text).toList ++ ['"']) := by
  rw [quote, String.toList_append, String.toList_append]
  rfl

/-- Reading digits goes on where it stopped, as long as they fit. -/
theorem foldl_push_toDigits {n : Nat} (fits : n < significandLimit) :
    (Nat.toDigits 10 n).foldl Significand.push ⟨0, 0⟩ = ⟨n, 0⟩ := by
  induction n using Nat.strong_induction_on with
  | _ n induction =>
      have value (digit : Nat) (small : digit < 10) : digitValue digit.digitChar = digit :=
        Nat.toNat_digitChar_sub_48_of_lt_ten small
      rcases Nat.lt_or_ge n 10 with small | large
      · rw [Nat.toDigits_of_lt_base small, List.foldl_cons, List.foldl_nil, Significand.push,
          value n small]
        simp [fits]
      · have whole : n / 10 * 10 + n % 10 = n := by omega
        rw [Nat.toDigits_of_base_le (by decide) large, List.foldl_append,
          induction (n / 10) (by omega) (by omega), List.foldl_cons, List.foldl_nil,
          Significand.push, value _ (by omega)]
        simp [whole, fits]

theorem head?_toDigits_ne {n : Nat} (positive : 0 < n) :
    (Nat.toDigits 10 n).head? ≠ some '0' := by
  induction n using Nat.strong_induction_on with
  | _ n induction =>
      rcases Nat.lt_or_ge n 10 with small | large
      · rw [Nat.toDigits_of_lt_base small, List.head?_cons]
        simp only [ne_eq, Option.some.injEq, Nat.digitChar_eq_zero]
        omega
      · rw [Nat.toDigits_of_base_le (by decide) large,
          List.head?_append_of_ne_nil _ Nat.toDigits_ne_nil]
        exact induction (n / 10) (by omega) (by omega)

/-- What can follow a value: nothing that a number could go on with. -/
def Closed (rest : List Char) : Prop :=
  ∀ c ∈ rest.head?, c.isDigit = false ∧ c ≠ '.' ∧ c ≠ 'e' ∧ c ≠ 'E'

theorem span_toDigits (n : Nat) {rest : List Char} (closed : Closed rest) :
    (Nat.toDigits 10 n ++ rest).takeWhile Char.isDigit = Nat.toDigits 10 n ∧
      (Nat.toDigits 10 n ++ rest).dropWhile Char.isDigit = rest := by
  have digits : ∀ c ∈ Nat.toDigits 10 n, c.isDigit = true := fun c member =>
    Nat.isDigit_of_mem_toDigits (by decide) (by decide) member
  have ended : rest.takeWhile Char.isDigit = [] ∧ rest.dropWhile Char.isDigit = rest := by
    cases rest with
    | nil => exact ⟨rfl, rfl⟩
    | cons c more =>
        have other := (closed c rfl).1
        exact ⟨List.takeWhile_cons_of_neg (by simp [other]),
          List.dropWhile_cons_of_neg (by simp [other])⟩
  rw [List.takeWhile_append_of_pos digits, List.dropWhile_append_of_pos digits, ended.1, ended.2,
    List.append_nil]
  exact ⟨rfl, rfl⟩

theorem readNumber_nat {n : Nat} (fits : n < significandLimit) {rest : List Char}
    (closed : Closed rest) :
    readNumber ((toString n).toList ++ rest) = some (.int n, rest) := by
  obtain ⟨digits, ended⟩ := span_toDigits n closed
  have unsigned : readNumber (Nat.toDigits 10 n ++ rest) =
      readUnsigned false (Nat.toDigits 10 n ++ rest) := by
    obtain ⟨first, more, spelled⟩ := List.exists_cons_of_ne_nil (@Nat.toDigits_ne_nil n 10)
    have digit : first.isDigit = true :=
      Nat.isDigit_of_mem_toDigits (by decide) (by decide) (spelled ▸ List.mem_cons_self)
    rw [spelled, List.cons_append, readNumber]
    intro _ same
    rw [(List.cons.inj same).1] at digit
    exact absurd digit (by decide)
  have written : (Nat.toDigits 10 n).head? = some '0' → ¬1 < (Nat.toDigits 10 n).length := by
    intro zero
    have none : n = 0 := Nat.eq_zero_of_not_pos fun positive => head?_toDigits_ne positive zero
    rw [none]
    decide
  rw [Nat.toString_eq_ofList_toDigits, String.toList_ofList, unsigned, readUnsigned, digits, ended,
    if_neg, foldl_push_toDigits fits]
  · cases rest with
    | nil => rfl
    | cons c more =>
        obtain ⟨-, point, small, large⟩ := closed c rfl
        dsimp only
        split
        · rename_i same
          exact absurd (List.cons.inj same).1 point
        · rename_i same
          obtain ⟨rfl, rfl⟩ := List.cons.inj same
          rw [if_neg (by simp [small, large])]
          rfl
        · contradiction
  · rw [Bool.or_eq_true, Bool.and_eq_true, decide_eq_true_eq, decide_eq_true_eq]
    rintro (empty | ⟨zero, many⟩)
    · exact Nat.toDigits_ne_nil (List.isEmpty_iff.mp empty)
    · exact written zero many

/-- The text of a value is read as the value with so much fuel or more, in front of everything that
can follow. -/
def Reads (fuel depth : Nat) (value : Json) : Prop :=
  ∀ given, fuel ≤ given → ∀ rest, Closed rest →
    readValue given depth ((compact value).toList ++ rest) = some (value, rest)

theorem readValue_quote (given depth : Nat) (rest : List Char) :
    readValue (given + 1) depth ('"' :: rest) =
      (readText rest).map fun (text, rest) => (.str text, rest) :=
  rfl

theorem reads_str (depth : Nat) (text : String) : Reads 1 depth (.str text) := by
  intro given enough rest _
  obtain ⟨given, rfl⟩ := Nat.exists_eq_add_of_le' enough
  rw [compact, toList_quote, List.cons_append, List.append_assoc, List.singleton_append,
    readValue_quote, readText_escape]
  rfl

theorem readValue_digit {first : Char} (digit : first.isDigit = true) (given depth : Nat)
    (more : List Char) :
    readValue (given + 1) depth (first :: more) =
      (readNumber (first :: more)).map fun (number, rest) => (.num number, rest) := by
  have started : skipSpaces (first :: more) = first :: more := by
    apply List.dropWhile_cons_of_neg
    simp only [isSpace, Bool.or_eq_true, decide_eq_true_eq]
    rintro (((rfl | rfl) | rfl) | rfl) <;> exact absurd digit (by decide)
  have other {c : Char} {rest : List Char} (same : first :: more = c :: rest) : c.isDigit = true := by
    rwa [← (List.cons.inj same).1]
  rw [readValue, started]
  -- every other kind of value starts with a character that is no digit
  split <;> first | rfl | exact absurd (other ‹_›) (by decide)

theorem reads_nat (depth : Nat) {n : Nat} (fits : n < significandLimit) : Reads 1 depth (nat n) := by
  intro given enough rest closed
  obtain ⟨given, rfl⟩ := Nat.exists_eq_add_of_le' enough
  have read := readNumber_nat fits closed
  have written : (compact (nat n)).toList = Nat.toDigits 10 n := by
    change (toString n).toList = _
    rw [Nat.toString_eq_ofList_toDigits, String.toList_ofList]
  obtain ⟨first, more, spelled⟩ := List.exists_cons_of_ne_nil (@Nat.toDigits_ne_nil n 10)
  have digit : first.isDigit = true :=
    Nat.isDigit_of_mem_toDigits (by decide) (by decide) (spelled ▸ List.mem_cons_self)
  rw [Nat.toString_eq_ofList_toDigits, String.toList_ofList, spelled, List.cons_append] at read
  rw [written, spelled, List.cons_append, readValue_digit digit, read]
  rfl

theorem insertMember_new {Value : Type} {members : List (String × Value)} {key : String}
    (fresh : key ∉ members.map Prod.fst) (value : Value) :
    insertMember members key value = members ++ [(key, value)] := by
  induction members with
  | nil => rfl
  | cons member rest induction =>
      rw [List.map_cons, List.mem_cons, not_or] at fresh
      rw [insertMember, if_neg (Ne.symm fresh.1), induction fresh.2]
      rfl

theorem closed_cons {c : Char} (ending : c = ',' ∨ c = '\x7d') (rest : List Char) :
    Closed (c :: rest) := by
  intro first same
  rw [← Option.some.inj same]
  rcases ending with rfl | rfl <;> decide

theorem readMembers_member {fuel depth : Nat} {key : String} {value : Json}
    (reads : Reads fuel depth value) {before : List (String × Json)}
    (fresh : key ∉ before.map Prod.fst) {given : Nat} (enough : fuel ≤ given) {tail : List Char}
    (closed : Closed tail) :
    readMembers (given + 1) depth ((quote key ++ ":" ++ compact value).toList ++ tail) before =
      match skipSpaces tail with
      | ',' :: after => readMembers given depth after (before ++ [(key, value)])
      | '\x7d' :: after => some (before ++ [(key, value)], after)
      | _ => none := by
  have spelled : (quote key ++ ":" ++ compact value).toList ++ tail =
      '"' :: ((escape key).toList ++ '"' :: (':' :: ((compact value).toList ++ tail))) := by
    rw [String.toList_append, String.toList_append, toList_quote]
    simp
  rw [spelled, readMembers]
  change (readText _).bind _ = _
  rw [readText_escape]
  change (readValue given depth _).bind _ = _
  rw [reads given enough tail closed, Option.bind_some]
  dsimp only
  rw [insertMember_new fresh]
  rfl

theorem compactMembers_cons (key : String) (value : Json) (next : String × Json)
    (later : List (String × Json)) :
    compactMembers ((key, value) :: next :: later) =
      quote key ++ ":" ++ compact value ++ "," ++ compactMembers (next :: later) := by
  rw [compactMembers]
  exact List.cons_ne_nil next later

/-- The members of an object are read in their order, if no key stands twice. -/
theorem readMembers_compact {fuel depth : Nat} {members : List (String × Json)}
    (reads : ∀ member ∈ members, Reads fuel depth member.2) (filled : members ≠ [])
    {before : List (String × Json)} (distinct : ((before ++ members).map Prod.fst).Nodup)
    {given : Nat} (enough : fuel + members.length ≤ given) (rest : List Char) :
    readMembers given depth ((compactMembers members).toList ++ '\x7d' :: rest) before =
      some (before ++ members, rest) := by
  induction members generalizing before given with
  | nil => exact absurd rfl filled
  | cons member more induction =>
      obtain ⟨key, value⟩ := member
      rw [List.length_cons] at enough
      obtain ⟨given, rfl⟩ := Nat.exists_eq_add_of_le' (show 1 ≤ given by omega)
      have here : Reads fuel depth value := reads (key, value) List.mem_cons_self
      have fresh : key ∉ before.map Prod.fst := by
        rw [List.map_append, List.map_cons, List.nodup_append] at distinct
        exact fun known => distinct.2.2 key known key List.mem_cons_self rfl
      cases more with
      | nil =>
          rw [compactMembers, readMembers_member here fresh (by omega)
            (closed_cons (.inr rfl) rest)]
          rfl
      | cons next later =>
          have comma : ",".toList = [','] := rfl
          rw [compactMembers_cons, String.toList_append, String.toList_append, List.append_assoc,
            List.append_assoc, comma, List.singleton_append,
            readMembers_member here fresh (by omega) (closed_cons (.inl rfl) _)]
          change readMembers given depth
            ((compactMembers (next :: later)).toList ++ '\x7d' :: rest) (before ++ [(key, value)]) = _
          rw [induction (fun member listed => reads member (List.mem_cons_of_mem _ listed))
            (List.cons_ne_nil _ _) (by rwa [List.append_assoc]) (by omega), List.append_assoc]
          rfl

theorem head?_compactMembers {members : List (String × Json)} (filled : members ≠ []) :
    (compactMembers members).toList.head? = some '"' := by
  match members, filled with
  | [(key, value)], _ => simp [compactMembers, toList_quote]
  | (key, value) :: next :: later, _ => simp [compactMembers, toList_quote]

theorem readValue_brace (given depth : Nat) (rest : List Char) :
    readValue (given + 1) (depth + 1) ('\x7b' :: '"' :: rest) =
      (readMembers given depth ('"' :: rest) []).map fun (members, rest) => (.obj members, rest) :=
  rfl

/-- An object is read one level deeper than its members. -/
theorem reads_obj {fuel depth : Nat} {members : List (String × Json)}
    (reads : ∀ member ∈ members, Reads fuel depth member.2) (filled : members ≠ [])
    (distinct : (members.map Prod.fst).Nodup) :
    Reads (fuel + members.length + 1) (depth + 1) (.obj members) := by
  intro given enough rest _
  obtain ⟨given, rfl⟩ := Nat.exists_eq_add_of_le' (show 1 ≤ given by omega)
  have inner :=
    @readMembers_compact fuel depth members reads filled [] distinct given (by omega) rest
  obtain ⟨more, quoted⟩ := List.head?_eq_some_iff.mp (head?_compactMembers filled)
  have spelled : (compact (.obj members)).toList ++ rest =
      '\x7b' :: ((compactMembers members).toList ++ '\x7d' :: rest) := by
    rw [compact, String.toList_append, String.toList_append]
    simp
  rw [quoted, List.cons_append] at spelled inner
  rw [spelled, readValue_brace, inner]
  rfl

/-- A text is the value that it has been written for, if nothing but fuel can end its reading. -/
theorem parse?_compact {fuel : Nat} {value : Json} (reads : Reads fuel maxDepth value)
    (enough : fuel ≤ 2 * (compact value).toList.length + 2) :
    parse? (compact value) = some value := by
  have whole := reads _ enough [] (by simp [Closed])
  rw [List.append_nil] at whole
  simp only [parse?, whole]
  rfl

end Gateway.Json
