/-!
Texts as bytes. `encode` writes each character in one to four bytes; `units` reads bytes back as a
list of characters and faults, where a fault stands for the longest start of a character that
cannot be completed. `decode?` accepts bytes without a fault, `decodeLossy` writes the replacement
character for each fault.
-/

namespace Gateway

abbrev Bytes := List UInt8

namespace Utf8

def encodeChar (c : Char) : Bytes :=
  let code := c.toNat
  if code < 0x80 then [code.toUInt8]
  else if code < 0x800 then
    [(0xC0 + code / 64).toUInt8, (0x80 + code % 64).toUInt8]
  else if code < 0x10000 then
    [(0xE0 + code / 4096).toUInt8, (0x80 + code / 64 % 64).toUInt8, (0x80 + code % 64).toUInt8]
  else
    [(0xF0 + code / 262144).toUInt8, (0x80 + code / 4096 % 64).toUInt8,
      (0x80 + code / 64 % 64).toUInt8, (0x80 + code % 64).toUInt8]

def width (c : Char) : Nat :=
  (encodeChar c).length

def encodeChars (chars : List Char) : Bytes :=
  chars.flatMap encodeChar

def encode (text : String) : Bytes :=
  encodeChars text.toList

/-- Least and greatest second byte after a lead byte of three or four bytes. -/
def secondRange (lead : Nat) : Nat × Nat :=
  if lead = 0xE0 then (0xA0, 0xBF)
  else if lead = 0xED then (0x80, 0x9F)
  else if lead = 0xF0 then (0x90, 0xBF)
  else if lead = 0xF4 then (0x80, 0x8F)
  else (0x80, 0xBF)

def inRange (range : Nat × Nat) (byte : UInt8) : Bool :=
  range.1 ≤ byte.toNat && byte.toNat ≤ range.2

def isContinuation (byte : UInt8) : Bool :=
  inRange (0x80, 0xBF) byte

/-- Reads the character that `lead` opens: the character, or `none` for a fault, and how many of
the bytes after `lead` it takes. -/
def readChar (lead : UInt8) (rest : Bytes) : Option Char × Nat :=
  let first := lead.toNat
  if first < 0x80 then (some (Char.ofNat first), 0)
  else if first < 0xC2 then (none, 0)
  else if first < 0xE0 then
    match rest with
    | second :: _ =>
        if isContinuation second then
          (some (Char.ofNat ((first - 0xC0) * 64 + (second.toNat - 0x80))), 1)
        else (none, 0)
    | [] => (none, 0)
  else if first < 0xF0 then
    match rest with
    | second :: third :: _ =>
        if inRange (secondRange first) second then
          if isContinuation third then
            (some (Char.ofNat ((first - 0xE0) * 4096 + (second.toNat - 0x80) * 64 +
              (third.toNat - 0x80))), 2)
          else (none, 1)
        else (none, 0)
    | [second] => (none, if inRange (secondRange first) second then 1 else 0)
    | [] => (none, 0)
  else if first < 0xF5 then
    match rest with
    | second :: third :: fourth :: _ =>
        if inRange (secondRange first) second then
          if isContinuation third then
            if isContinuation fourth then
              (some (Char.ofNat ((first - 0xF0) * 262144 + (second.toNat - 0x80) * 4096 +
                (third.toNat - 0x80) * 64 + (fourth.toNat - 0x80))), 3)
            else (none, 2)
          else (none, 1)
        else (none, 0)
    | [second, third] =>
        (none, if inRange (secondRange first) second then if isContinuation third then 2 else 1
          else 0)
    | [second] => (none, if inRange (secondRange first) second then 1 else 0)
    | [] => (none, 0)
  else (none, 0)

/-- The characters and faults of a byte sequence. -/
def units : Bytes → List (Option Char)
  | [] => []
  | lead :: rest =>
      let step := readChar lead rest
      step.1 :: units (rest.drop step.2)
termination_by bytes => bytes.length
decreasing_by simp only [List.length_drop, List.length_cons]; omega

def replacement : Char := Char.ofNat 0xFFFD

/-- The text that the bytes encode, if they hold no fault. -/
def decode? (bytes : Bytes) : Option String :=
  ((units bytes).mapM id).map String.ofList

/-- The text of the bytes with every fault replaced. -/
def decodeLossy (bytes : Bytes) : String :=
  String.ofList ((units bytes).map fun unit => unit.getD replacement)

end Utf8

end Gateway
