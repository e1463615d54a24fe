import Gateway.Form
import Gateway.Url.Domain

/-!
Hosts of web addresses: domain names, IPv4 addresses in any of their spellings and IPv6 addresses in
brackets. `Host.parse` reads a host and `Host.text` writes the one spelling that is sent.
-/

namespace Gateway.Url

inductive Fault where
  | emptyHost
  | invalidDomain
  | invalidPort
  | invalidIpv4
  | invalidIpv6
  | invalidDomainCharacter
  | relative
  deriving DecidableEq, Repr

def Fault.message : Fault → String
  | .emptyHost => "empty host"
  | .invalidDomain => "invalid international domain name"
  | .invalidPort => "invalid port number"
  | .invalidIpv4 => "invalid IPv4 address"
  | .invalidIpv6 => "invalid IPv6 address"
  | .invalidDomainCharacter => "invalid domain character"
  | .relative => "relative URL without a base"

/-- A host. An IPv6 address has eight pieces of 16 bits. -/
inductive Host where
  | domain (name : String)
  | ipv4 (address : Nat)
  | ipv6 (pieces : List Nat)
  deriving DecidableEq, Repr

namespace Ipv4

def digitsValue (base : Nat) (digits : List Char) : Nat :=
  digits.foldl (fun value c => value * base + ((Form.hexValue? (UInt8.ofNat c.toNat)).getD 0)) 0

def isHexDigit (c : Char) : Bool :=
  c.isDigit || ('a' ≤ c && c ≤ 'f') || ('A' ≤ c && c ≤ 'F')

/-- A number of an address: hexadecimal behind `0x`, octal behind `0`, decimal otherwise. -/
def number? (text : List Char) : Option Nat :=
  match text with
  | [] => none
  | '0' :: 'x' :: digits | '0' :: 'X' :: digits =>
      if digits.all isHexDigit then some (digitsValue 16 digits) else none
  | '0' :: c :: rest =>
      if (c :: rest).all fun c => '0' ≤ c && c ≤ '7' then some (digitsValue 8 (c :: rest)) else none
  | digits => if digits.all Char.isDigit then some (digitsValue 10 digits) else none

/-- The labels without an empty last one. -/
def parts (name : List Char) : List (List Char) :=
  let labels := Domain.splitDots name
  if labels.getLast? = some [] then labels.dropLast else labels

/-- Whether the last label is a number, so that the name has to be an address. -/
def endsInNumber (name : List Char) : Bool :=
  match (parts name).getLast? with
  | none => false
  | some last => (!last.isEmpty && last.all Char.isDigit) || (number? last).isSome

/-- Reads one to four numbers: the last one fills all bytes that are left. -/
def parse? (name : List Char) : Option Nat := do
  let numbers ← (parts name).mapM number?
  let last ← numbers.getLast?
  let front := numbers.dropLast
  if 3 < front.length ∨ front.any (255 < ·) ∨ Nat.pow 256 (4 - front.length) ≤ last then none
  else
    some (front.zipIdx.foldl (fun sum (part, place) => sum + part * Nat.pow 256 (3 - place)) last)

/-- Four decimal numbers. -/
def text (address : Nat) : String :=
  ".".intercalate
    [toString (address / 16777216 % 256), toString (address / 65536 % 256),
      toString (address / 256 % 256), toString (address % 256)]

end Ipv4

namespace Ipv6

def splitColons : List Char → List (List Char)
  | [] => [[]]
  | c :: rest =>
      match splitColons rest with
      | [] => [[c]]
      | part :: parts => if c = ':' then [] :: part :: parts else (c :: part) :: parts

/-- A piece of one to four hexadecimal digits. -/
def piece? (text : List Char) : Option Nat :=
  if text.isEmpty || 4 < text.length || !text.all Ipv4.isHexDigit then none
  else some (Ipv4.digitsValue 16 text)

/-- A decimal byte without leading zeros. -/
def byte? (text : List Char) : Option Nat :=
  if text.isEmpty || 3 < text.length || !text.all Char.isDigit ||
      (text.head? = some '0' && 1 < text.length) then none
  else
    let value := Ipv4.digitsValue 10 text
    if 255 < value then none else some value

/-- Four bytes in dotted form as two pieces. -/
def dotted? (text : List Char) : Option (List Nat) := do
  match ← (Domain.splitDots text).mapM byte? with
  | [a, b, c, d] => some [a * 256 + b, c * 256 + d]
  | _ => none

/-- A run of pieces; the last one may be dotted. -/
def pieces? : List (List Char) → Option (List Nat)
  | [] => some []
  | [last] => if last.contains '.' then dotted? last else (piece? last).map ([·])
  | part :: rest => do
      let piece ← piece? part
      let more ← pieces? rest
      some (piece :: more)

def splitGap : List Char → List Char × Option (List Char)
  | ':' :: ':' :: rest => ([], some rest)
  | c :: rest =>
      let split := splitGap rest
      (c :: split.1, split.2)
  | [] => ([], none)

/-- The pieces of one side of a gap, which may be empty. -/
def side? (text : List Char) : Option (List Nat) :=
  if text.isEmpty then some [] else pieces? (splitColons text)

/-- Eight pieces; one gap stands for at least one piece of zero. -/
def parse? (text : List Char) : Option (List Nat) := do
  match splitGap text with
  | (whole, none) =>
      let pieces ← side? whole
      if pieces.length = 8 then some pieces else none
  | (left, some right) =>
      if left.contains '.' then none
      else do
        let before ← side? left
        let after ← side? right
        if before.length + after.length < 8 then
          some (before ++ List.replicate (8 - before.length - after.length) 0 ++ after)
        else none

def hexText (piece : Nat) : String :=
  String.ofList (Nat.toDigits 16 piece)

/-- The length of the run of zeros at each place. -/
def zeroRuns : List Nat → List Nat
  | [] => []
  | piece :: rest =>
      let runs := zeroRuns rest
      (if piece = 0 then runs.headD 0 + 1 else 0) :: runs

/-- Hexadecimal pieces with the first longest run of two or more zeros left out. -/
def text (pieces : List Nat) : String :=
  let runs := zeroRuns pieces
  let longest := runs.foldl max 0
  let join := fun (part : List Nat) => ":".intercalate (part.map hexText)
  if longest < 2 then join pieces
  else
    let start := runs.findIdx (· = longest)
    join (pieces.take start) ++ "::" ++ join (pieces.drop (start + longest))

end Ipv6

namespace Host

def parse (chars : List Char) : Except Fault Host :=
  match chars with
  | '[' :: rest =>
      if rest.getLast? = some ']' then
        match Ipv6.parse? rest.dropLast with
        | some pieces => .ok (.ipv6 pieces)
        | none => .error .invalidIpv6
      else .error .invalidIpv6
  | _ =>
      match (Utf8.decode? (Form.percentDecode (Utf8.encodeChars chars))).bind Domain.toAscii? with
      | none => .error .invalidDomain
      | some name =>
          if name = "" then .error .emptyHost
          else if Ipv4.endsInNumber name.toList then
            match Ipv4.parse? name.toList with
            | some address => .ok (.ipv4 address)
            | none => .error .invalidIpv4
          else .ok (.domain name)

def isOpaqueForbidden (c : Char) : Bool :=
  c.toNat = 0 || c ∈ "\t\n\r #/:<>?@[\\]^|".toList

def checkOpaque (chars : List Char) : Except Fault Unit :=
  match chars with
  | '[' :: _ => (parse chars).map fun _ => ()
  | _ => if chars.any isOpaqueForbidden then .error .invalidDomainCharacter else .ok ()

def text : Host → String
  | .domain name => name
  | .ipv4 address => Ipv4.text address
  | .ipv6 pieces => "[" ++ Ipv6.text pieces ++ "]"

end Host

end Gateway.Url
