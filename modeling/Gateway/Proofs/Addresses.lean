import Gateway.Http.Uri
import Gateway.Proofs.FormCoding
import Gateway.Url.Address

/-!
The texts of an address that was read. However the address was written, its host and port hold no
character that would end an authority, its path starts with a slash and holds neither the mark of a
query nor that of a fragment, and its query holds no mark of a fragment. So the parts of an address
can be told apart when they are written one behind the other.
-/

namespace Gateway.Url

def Unbroken (chars : List Char) : Prop := ∀ c ∈ chars, Uri.endsAuthority c = false

namespace Unbroken

variable {front back chars : List Char} {c : Char}

theorem nil : Unbroken [] := by
  intro c member
  contradiction

theorem cons (first : Uri.endsAuthority c = false) (rest : Unbroken chars) :
    Unbroken (c :: chars) := by
  intro d member
  rcases List.mem_cons.mp member with rfl | later
  · exact first
  · exact rest d later

theorem append (left : Unbroken front) (right : Unbroken back) : Unbroken (front ++ back) := by
  intro c member
  rcases List.mem_append.mp member with here | there
  · exact left c here
  · exact right c there

theorem flatten {parts : List (List Char)} (each : ∀ part ∈ parts, Unbroken part) :
    Unbroken parts.flatten := by
  intro c member
  obtain ⟨part, listed, within⟩ := List.mem_flatten.mp member
  exact each part listed c within

theorem intercalate {separator : List Char} {parts : List (List Char)}
    (between : Unbroken separator) (each : ∀ part ∈ parts, Unbroken part) :
    Unbroken (separator.intercalate parts) := by
  apply flatten
  intro part member
  rcases mem_intersperse member with rfl | listed
  · exact between
  · exact each part listed

end Unbroken

theorem mem_of_mapM {Item Result : Type} {read : Item → Option Result} {items : List Item}
    {results : List Result} {result : Result} (done : items.mapM read = some results)
    (member : result ∈ results) : ∃ item ∈ items, read item = some result := by
  induction items generalizing results with
  | nil =>
      obtain rfl := Option.some.inj done
      contradiction
  | cons item items induction =>
      rw [List.mapM_cons] at done
      obtain ⟨first, here, rest⟩ := Option.bind_eq_some_iff.mp done
      obtain ⟨later, there, joined⟩ := Option.bind_eq_some_iff.mp rest
      obtain rfl := Option.some.inj joined
      rcases List.mem_cons.mp member with rfl | within
      · exact ⟨item, List.mem_cons_self, here⟩
      · obtain ⟨other, listed, found⟩ := induction there within
        exact ⟨other, List.mem_cons_of_mem item listed, found⟩

namespace Punycode

theorem digit_unbroken {value : Nat} (small : value < 36) :
    Uri.endsAuthority (digit value) = false := by
  have all : ∀ value < 36, Uri.endsAuthority (digit value) = false := by decide
  exact all value small

theorem threshold_le (position bias : Nat) : threshold position bias ≤ 26 :=
  Nat.min_le_left _ _

theorem encodeDelta_unbroken (fuel delta position bias : Nat) :
    Unbroken (encodeDelta fuel delta position bias) := by
  induction fuel generalizing delta position with
  | zero => exact .nil
  | succ fuel induction =>
      -- the threshold leaves room below the base, so both digits are among the 36
      have least := threshold_le position bias
      unfold encodeDelta
      dsimp only
      split
      · exact .cons (digit_unbroken (by omega)) .nil
      · have within : (delta - threshold position bias) % (36 - threshold position bias) <
            36 - threshold position bias := Nat.mod_lt _ (by omega)
        exact .cons (digit_unbroken (by omega)) (induction _ _)

theorem writePoint_unbroken {basic point : Nat} {label : List Char} {writing : Writing}
    (before : Unbroken writing.output) :
    Unbroken (writePoint basic point label writing).output := by
  unfold writePoint
  induction label generalizing writing with
  | nil => exact before
  | cons c label induction =>
      rw [List.foldl_cons]
      apply induction
      split
      · exact before
      · split
        · exact before.append (encodeDelta_unbroken _ _ _ _)
        · exact before

theorem writePoints_unbroken {basic next : Nat} {label : List Char} {points : List Nat}
    {writing : Writing} (before : Unbroken writing.output) :
    Unbroken (writePoints basic label points next writing).output := by
  induction points generalizing next writing with
  | nil => exact before
  | cons point points induction =>
      unfold writePoints
      exact induction (writePoint_unbroken before)

theorem encode_unbroken {label written : List Char}
    (basic : ∀ c ∈ label, c.toNat < 128 → Uri.endsAuthority c = false)
    (encoded : encode? label = some written) : Unbroken written := by
  unfold encode? at encoded
  split at encoded
  · contradiction
  · rw [← Option.some.inj encoded]
    apply writePoints_unbroken
    have kept : Unbroken (label.filter fun c => c.toNat < 128) := by
      intro c member
      obtain ⟨listed, small⟩ := List.mem_filter.mp member
      exact basic c listed (of_decide_eq_true small)
    dsimp only
    split
    · exact .nil
    · exact kept.append (.cons (by decide) .nil)

theorem toNat_ofNat_scalar {point : Nat} (scalar : ¬(0x10FFFF < point ∨ 0xD800 ≤ point ∧
    point < 0xE000)) : (Char.ofNat point).toNat = point := by
  have valid : point.isValidChar := by
    unfold Nat.isValidChar
    omega
  unfold Char.ofNat
  rw [dif_pos valid]
  rfl

/-- Reading puts characters beyond ASCII between those that are there. -/
theorem mem_readPoints {fuel point index bias : Nat} {output chars text : List Char} {c : Char}
    (read : readPoints fuel point index bias output chars = some text) (high : 128 ≤ point)
    (member : c ∈ text) : c ∈ output ∨ 128 ≤ c.toNat := by
  fun_induction readPoints fuel point index bias output chars with
  | case1 =>
      rw [Option.some.inj read]
      exact .inl member
  | case2 =>
      rw [Option.some.inj read]
      exact .inl member
  | case3 fuel point index bias output chars _ induction =>
      obtain ⟨⟨next, rest⟩, _, read⟩ := Option.bind_eq_some_iff.mp read
      dsimp only at read
      split at read
      · contradiction
      · rename_i scalar
        -- the point never gets smaller, so every character that is put in lies beyond ASCII
        have grown : 128 ≤ point + next / (output.length + 1) :=
          Nat.le_trans high (Nat.le_add_right ..)
        rcases induction next rest read grown with placed | beyond
        · rcases List.mem_append.mp placed with front | back
          · exact .inl (List.mem_of_mem_take front)
          · rcases List.mem_cons.mp back with rfl | back
            · right
              rw [toNat_ofNat_scalar scalar]
              exact grown
            · exact .inl (List.mem_of_mem_drop back)
        · exact .inr beyond

theorem mem_decode {label text : List Char} {c : Char} (decoded : decode? label = some text)
    (member : c ∈ text) : c ∈ label ∨ 128 ≤ c.toNat := by
  unfold decode? at decoded
  dsimp only at decoded
  split at decoded
  · rcases mem_readPoints decoded (by decide) member with basic | beyond
    · left
      have behind := List.mem_of_mem_drop (List.mem_reverse.mp basic)
      exact List.mem_reverse.mp ((List.dropWhile_suffix _).subset behind)
    · exact .inr beyond
  · contradiction

end Punycode

namespace Domain

theorem unbroken_of_permitted {c : Char} (permitted : isForbidden c = false) :
    Uri.endsAuthority c = false := by
  simp only [isForbidden, Bool.or_eq_false_iff, decide_eq_false_iff_not] at permitted
  simp only [Uri.endsAuthority, Bool.or_eq_false_iff, decide_eq_false_iff_not]
  have listed := permitted.2
  refine ⟨⟨?_, ?_⟩, ?_⟩ <;> rintro rfl <;> exact listed (by decide)

theorem mem_splitDots {chars label : List Char} {c : Char} (listed : label ∈ splitDots chars)
    (member : c ∈ label) : c ∈ chars := by
  induction chars generalizing label with
  | nil =>
      rw [splitDots, List.mem_singleton] at listed
      rw [listed] at member
      contradiction
  | cons first chars induction =>
      unfold splitDots at listed
      split at listed
      · rw [List.mem_singleton.mp listed, List.mem_singleton] at member
        exact member ▸ List.mem_cons_self
      · rename_i head tail split
        have later {other : List Char} (among : other ∈ head :: tail) (within : c ∈ other) :
            c ∈ first :: chars :=
          List.mem_cons_of_mem first (induction (split ▸ among) within)
        split at listed
        · rcases List.mem_cons.mp listed with rfl | among
          · contradiction
          · exact later among member
        · rcases List.mem_cons.mp listed with rfl | among
          · rcases List.mem_cons.mp member with rfl | within
            · exact List.mem_cons_self
            · exact later List.mem_cons_self within
          · exact later (List.mem_cons_of_mem head among) member

/-- A label is read as itself, or as a text whose characters of ASCII are those of the label. -/
theorem mem_readLabel {label text : List Char} {c : Char} (read : readLabel? label = some text)
    (member : c ∈ text) : c ∈ label ∨ 128 ≤ c.toNat := by
  unfold readLabel? at read
  split at read
  · obtain ⟨decoded, found, read⟩ := Option.bind_eq_some_iff.mp read
    split at read
    · obtain rfl := Option.some.inj read
      rcases Punycode.mem_decode found member with basic | beyond
      · exact .inl (List.mem_of_mem_drop basic)
      · exact .inr beyond
    · contradiction
  · split at read
    · exact .inl (Option.some.inj read ▸ member)
    · contradiction

theorem writeLabel_unbroken {label written : List Char}
    (basic : ∀ c ∈ label, c.toNat < 128 → Uri.endsAuthority c = false)
    (wrote : writeLabel? label = some written) : Unbroken written := by
  unfold writeLabel? at wrote
  split at wrote
  · rename_i ascii
    rw [← Option.some.inj wrote]
    intro c member
    exact basic c member (of_decide_eq_true (List.all_eq_true.mp ascii c member))
  · obtain ⟨encoded, found, rfl⟩ := Option.map_eq_some_iff.mp wrote
    have mark : Unbroken "xn--".toList :=
      .cons (by decide) (.cons (by decide) (.cons (by decide) (.cons (by decide) .nil)))
    exact mark.append (Punycode.encode_unbroken basic found)

theorem toAscii_unbroken {name written : String} (wrote : toAscii? name = some written) :
    Unbroken written.toList := by
  unfold toAscii? at wrote
  dsimp only at wrote
  split at wrote
  · contradiction
  · rename_i permitted
    obtain ⟨labels, read, rest⟩ := Option.bind_eq_some_iff.mp wrote
    split at rest
    · obtain ⟨encoded, each, joined⟩ := Option.bind_eq_some_iff.mp rest
      rw [← Option.some.inj joined, String.toList_ofList]
      apply Unbroken.intercalate (.cons (by decide) .nil)
      intro part listed
      obtain ⟨label, among, found⟩ := mem_of_mapM each listed
      obtain ⟨piece, split, readAs⟩ := mem_of_mapM read among
      apply writeLabel_unbroken _ found
      -- the forbidden characters are looked for before the labels are read; what the reading of a
      -- label adds is not ASCII, so none of them comes in later
      intro c member small
      rcases mem_readLabel readAs member with own | beyond
      · apply unbroken_of_permitted
        have none := List.any_eq_false.mp (Bool.not_eq_true _ ▸ permitted) c (mem_splitDots split own)
        simpa using none
      · omega
    · simp at rest

end Domain

theorem digitChar_unbroken (value : Nat) : Uri.endsAuthority (Nat.digitChar value) = false := by
  rcases Nat.lt_or_ge value 16 with small | large
  · have all : ∀ value < 16, Uri.endsAuthority (Nat.digitChar value) = false := by decide
    exact all value small
  · have other : ∀ known < 16, value ≠ known := fun known small => by omega
    simp only [Nat.digitChar, other, Nat.reduceLT, if_false]
    decide

theorem toDigits_unbroken {base : Nat} (many : 1 < base) (value : Nat) :
    Unbroken (Nat.toDigits base value) := by
  induction value using Nat.strongRecOn with
  | ind value induction =>
      rw [Nat.toDigits_eq_if many]
      split
      · exact .cons (digitChar_unbroken _) .nil
      · have smaller : value / base < value := Nat.div_lt_self (by omega) many
        exact (induction _ smaller).append (.cons (digitChar_unbroken _) .nil)

theorem toString_unbroken (value : Nat) : Unbroken (toString value).toList := by
  rw [Nat.toString_eq_ofList_toDigits, String.toList_ofList]
  exact toDigits_unbroken (by decide) value

theorem joined_unbroken {separator : String} {parts : List String}
    (between : Unbroken separator.toList) (each : ∀ part ∈ parts, Unbroken part.toList) :
    Unbroken (separator.intercalate parts).toList := by
  rw [String.toList_intercalate]
  apply Unbroken.intercalate between
  intro part member
  obtain ⟨text, listed, rfl⟩ := List.mem_map.mp member
  exact each text listed

theorem Ipv4.text_unbroken (address : Nat) : Unbroken (Ipv4.text address).toList := by
  have dot : Unbroken ".".toList := .cons (by decide) .nil
  apply joined_unbroken dot
  intro part member
  simp only [List.mem_cons, List.not_mem_nil, or_false] at member
  rcases member with rfl | rfl | rfl | rfl <;> exact toString_unbroken _

theorem Ipv6.text_unbroken (pieces : List Nat) : Unbroken (Ipv6.text pieces).toList := by
  have colon : Unbroken ":".toList := .cons (by decide) .nil
  have run (part : List Nat) : Unbroken (":".intercalate (part.map hexText)).toList := by
    apply joined_unbroken colon
    intro text member
    obtain ⟨piece, _, rfl⟩ := List.mem_map.mp member
    rw [hexText, String.toList_ofList]
    exact toDigits_unbroken (by decide) piece
  have gap : Unbroken "::".toList := .cons (by decide) (.cons (by decide) .nil)
  unfold Ipv6.text
  dsimp only
  split
  · exact run pieces
  · rw [String.toList_append, String.toList_append]
    exact ((run _).append gap).append (run _)

theorem Host.text_unbroken {chars : List Char} {host : Host} (parsed : Host.parse chars = .ok host) :
    Unbroken host.text.toList := by
  cases host with
  | ipv4 address => exact Ipv4.text_unbroken address
  | ipv6 pieces =>
      rw [Host.text, String.toList_append, String.toList_append]
      exact (Unbroken.append (.cons (by decide) .nil) (Ipv6.text_unbroken pieces)).append
        (.cons (by decide) .nil)
  | domain name =>
      unfold Host.parse at parsed
      split at parsed
      · split at parsed
        · split at parsed <;> simp at parsed
        · simp at parsed
      · split at parsed
        · simp at parsed
        · rename_i written found
          obtain ⟨_, _, ascii⟩ := Option.bind_eq_some_iff.mp found
          split at parsed
          · simp at parsed
          · split at parsed
            · split at parsed <;> simp at parsed
            · obtain rfl := Host.domain.inj (Except.ok.inj parsed)
              exact Domain.toAscii_unbroken ascii

def endsPath (c : Char) : Bool := c = '?' || c = '#'

/-- A path as it can stand behind an authority: it is empty or starts with a slash, and neither mark
ends it early. -/
structure IsPath (path : String) : Prop where
  start : path = "" ∨ ∃ rest, path.toList = '/' :: rest
  free : ∀ c ∈ path.toList, endsPath c = false

def IsQuery (query : String) : Prop := ∀ c ∈ query.toList, c ≠ '#'

/-- What is percent-encoded leaves none of the chosen characters but percent signs and digits. -/
theorem encodeWhere_free {chosen : Char → Bool} (marks : List Char) {chars : List Char} {c : Char}
    (all : marks.all chosen = true)
    (digits : '%' ∉ marks ∧ ∀ value < 16, Form.hexDigit value ∉ marks)
    (member : c ∈ encodeWhere chosen chars) : c ∉ marks := by
  obtain ⟨origin, _, within⟩ := List.mem_flatMap.mp member
  split at within
  · obtain ⟨byte, _, within⟩ := List.mem_flatMap.mp within
    have bound : byte.toNat < 256 := byte.toNat_lt
    simp only [List.mem_cons, List.not_mem_nil, or_false] at within
    rcases within with rfl | rfl | rfl
    · exact digits.1
    · exact digits.2 _ (by omega)
    · exact digits.2 _ (by omega)
  · rename_i kept
    rw [List.mem_singleton.mp within]
    exact fun mark => kept (List.all_eq_true.mp all origin mark)

theorem encodePath_free {chars : List Char} {c : Char}
    (member : c ∈ encodeWhere isPathEncoded chars) : endsPath c = false := by
  have free := encodeWhere_free ['?', '#'] (by decide) (by decide) member
  simpa [endsPath] using free

theorem encodeQuery_free {chars : List Char} {c : Char}
    (member : c ∈ encodeWhere isQueryEncoded chars) : c ≠ '#' := by
  have free := encodeWhere_free ['#'] (by decide) (by decide) member
  simpa using free

theorem resolve_free {kept segments : List (List Char)}
    (before : ∀ segment ∈ kept, ∀ c ∈ segment, endsPath c = false) :
    ∀ segment ∈ resolve kept segments, ∀ c ∈ segment, endsPath c = false := by
  have shorter : ∀ segment ∈ kept.dropLast, ∀ c ∈ segment, endsPath c = false :=
    fun segment member => before segment (List.mem_of_mem_dropLast member)
  induction segments generalizing kept with
  | nil => exact before
  | cons segment segments induction =>
      unfold resolve
      dsimp only
      -- what is kept when the segment goes up by one, which may also be the last one
      have left : ∀ other ∈ (if isDoubleDot segment then kept.dropLast else kept),
          ∀ c ∈ other, endsPath c = false := by
        split
        · exact shorter
        · exact before
      split
      · split
        · intro other member
          rcases List.mem_append.mp member with kept | last
          · exact left other kept
          · rw [List.mem_singleton.mp last]
            exact fun c member => nomatch member
        · exact induction left fun other member => left other (List.mem_of_mem_dropLast member)
      · have more : ∀ other ∈ kept ++ [encodeWhere isPathEncoded segment],
            ∀ c ∈ other, endsPath c = false := by
          intro other member
          rcases List.mem_append.mp member with kept | last
          · exact before other kept
          · rw [List.mem_singleton.mp last]
            exact fun c member => encodePath_free member
        exact induction more fun other member => more other (List.mem_of_mem_dropLast member)

theorem readPath_isPath (chars : List Char) : IsPath (readPath chars) := by
  unfold readPath
  dsimp only
  generalize resolved : resolve [] _ = segments
  have free : ∀ segment ∈ segments, ∀ c ∈ segment, endsPath c = false := by
    rw [← resolved]
    exact resolve_free fun _ member => nomatch member
  constructor
  · cases segments with
    | nil => exact .inl rfl
    | cons segment segments =>
        right
        rw [String.toList_ofList, List.flatMap_cons, List.cons_append]
        exact ⟨_, rfl⟩
  · intro c member
    rw [String.toList_ofList] at member
    obtain ⟨segment, listed, within⟩ := List.mem_flatMap.mp member
    rcases List.mem_cons.mp within with rfl | within
    · decide
    · exact free segment listed c within

/-- The texts of an address that can be written one behind the other. -/
structure Address.WellFormed (address : Address) : Prop where
  scheme : address.scheme = "http" ∨ address.scheme = "https"
  port : address.port ≠ schemePort address.scheme
  authority : Unbroken address.authority.toList
  path : IsPath address.path
  query : ∀ query, address.query = some query → IsQuery query

theorem readPort_ne_own {own : Nat} {digits : List Char} {port : Option Nat}
    (read : readPort (some own) digits = .ok port) : port ≠ some own := by
  unfold readPort at read
  dsimp only at read
  split at read
  · contradiction
  · split at read
    · contradiction
    · rw [← Except.ok.inj read]
      split
      · simp
      · rename_i other
        simp only [Bool.or_eq_true, decide_eq_true_eq, not_or] at other
        exact fun same => other.2 same.symm

theorem readWeb_eq_ok {scheme : String} {own : Nat} {chars : List Char} {address : Address}
    (read : readWeb scheme own chars = .ok address) :
    address.scheme = scheme ∧ address.port ≠ some own ∧ Unbroken address.authority.toList ∧
      IsPath address.path ∧ ∀ query, address.query = some query → IsQuery query := by
  obtain ⟨⟨host, port⟩, authority, made⟩ := bind_eq_ok.mp read
  obtain rfl := Except.ok.inj made
  unfold readHost at authority
  dsimp only at authority
  split at authority
  · contradiction
  · obtain ⟨parsed, hosted, authority⟩ := bind_eq_ok.mp authority
    obtain ⟨number, ported, made⟩ := bind_eq_ok.mp authority
    obtain ⟨rfl, rfl⟩ := Prod.mk.inj (Except.ok.inj made)
    refine ⟨rfl, readPort_ne_own ported, ?_, readPath_isPath _, ?_⟩
    · unfold Address.authority
      split
      · rw [String.toList_append, String.toList_append]
        exact ((Host.text_unbroken hosted).append (.cons (by decide) .nil)).append
          (toString_unbroken _)
      · exact Host.text_unbroken hosted
    · intro query queried
      dsimp only at queried
      split at queried
      · rw [← Option.some.inj queried]
        intro c member
        rw [String.toList_ofList] at member
        exact encodeQuery_free member
      · contradiction

theorem parse_wellFormed {text : String} {address : Address}
    (parsed : parse text = .ok (.web address)) : address.WellFormed := by
  unfold parse at parsed
  split at parsed
  · contradiction
  · rename_i scheme rest _
    split at parsed
    · rename_i own known
      obtain ⟨read, web, chosen⟩ := bind_eq_ok.mp parsed
      split at chosen
      · rename_i permitted
        obtain rfl := Parsed.web.inj (Except.ok.inj chosen)
        obtain ⟨rfl, port, authority, path, query⟩ := readWeb_eq_ok web
        exact ⟨permitted, known ▸ port, authority, path, query⟩
      · simp at chosen
    · dsimp only at parsed
      split at parsed
      all_goals
        obtain ⟨_, _, other⟩ := bind_eq_ok.mp parsed
        simp at other

end Gateway.Url
