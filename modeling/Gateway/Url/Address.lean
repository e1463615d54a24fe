import Gateway.Url.Host

/-!
Absolute addresses as people write them. Blanks and controls at the ends, tabs and line breaks are
dropped, backslashes count as slashes, any number of slashes may stand before the host, dot segments
are resolved and characters that may not be sent are percent-encoded. Addresses of other schemes
than `http` and `https` are checked but not taken apart.
-/

namespace Gateway.Url

structure Address where
  scheme : String
  host : Host
  /-- Left out where it is the scheme's own port. -/
  port : Option Nat
  path : String
  query : Option String
  deriving DecidableEq, Repr

inductive Parsed where
  | web (address : Address)
  | other (scheme : String)
  deriving DecidableEq, Repr

/-- The host with its port. -/
def Address.authority (address : Address) : String :=
  match address.port with
  | some port => address.host.text ++ ":" ++ toString port
  | none => address.host.text

/-- Drops controls and blanks at both ends and line breaks and tabs everywhere. -/
def clean (chars : List Char) : List Char :=
  let isEdge := fun (c : Char) => c.toNat ≤ 0x20
  let trimmed := ((chars.dropWhile isEdge).reverse.dropWhile isEdge).reverse
  trimmed.filter fun c => !(c = '\t' || c = '\n' || c = '\r')

/-- The scheme in small letters and what follows its colon. -/
def splitScheme (chars : List Char) : Option (String × List Char) :=
  let isLater := fun (c : Char) => c.isAlphanum || c = '+' || c = '-' || c = '.'
  match chars with
  | [] => none
  | c :: _ =>
      if !c.isAlpha then none
      else
        match chars.dropWhile isLater with
        | ':' :: rest => some (String.ofList ((chars.takeWhile isLater).map Char.toLower), rest)
        | _ => none

/-- The port that a scheme has of its own; only such schemes have a host in every address. -/
def schemePort (scheme : String) : Option Nat :=
  if scheme = "http" ∨ scheme = "ws" then some 80
  else if scheme = "https" ∨ scheme = "wss" then some 443
  else if scheme = "ftp" then some 21
  else none

def endsAuthority (backslash : Bool) (c : Char) : Bool :=
  c = '/' || c = '?' || c = '#' || (backslash && c = '\\')

/-- The text behind the last at sign, and the user information before it if there is such a sign. -/
def splitUser (authority : List Char) : List Char × Option (List Char) :=
  if authority.contains '@' then
    ((authority.reverse.takeWhile (· ≠ '@')).reverse,
      some ((authority.reverse.dropWhile (· ≠ '@')).drop 1).reverse)
  else (authority, none)

/-- Splits in front of the colon of a port; colons in brackets belong to the host. -/
def splitPort (inside : Bool) : List Char → List Char × Option (List Char)
  | [] => ([], none)
  | c :: rest =>
      if c = ':' ∧ !inside then ([], some rest)
      else
        let split := splitPort (if c = '[' then true else if c = ']' then false else inside) rest
        (c :: split.1, split.2)

def readPort (own : Option Nat) (digits : List Char) : Except Fault (Option Nat) :=
  if !digits.all Char.isDigit then .error .invalidPort
  else
    let port := Ipv4.digitsValue 10 digits
    if 65535 < port then .error .invalidPort
    else .ok (if digits.isEmpty || own = some port then none else some port)

def isPathEncoded (c : Char) : Bool :=
  c.toNat ≤ 0x20 || 0x7F ≤ c.toNat || c ∈ "\"#<>?".toList || c.toNat = 96 || c = '\x7b' ||
    c = '\x7d'

def isQueryEncoded (c : Char) : Bool :=
  c.toNat ≤ 0x20 || 0x7F ≤ c.toNat || c ∈ "\"#<>'".toList

/-- Percent-encodes the bytes of chosen characters. -/
def encodeWhere (chosen : Char → Bool) (chars : List Char) : List Char :=
  chars.flatMap fun c =>
    if chosen c then
      (Utf8.encodeChar c).flatMap fun byte =>
        ['%', Form.hexDigit (byte.toNat / 16), Form.hexDigit (byte.toNat % 16)]
    else [c]

def splitSlashes : List Char → List (List Char)
  | [] => [[]]
  | c :: rest =>
      match splitSlashes rest with
      | [] => [[c]]
      | part :: parts =>
          if c = '/' || c = '\\' then [] :: part :: parts else (c :: part) :: parts

def isSingleDot (segment : List Char) : Bool :=
  String.ofList (segment.map Char.toLower) ∈ [".", "%2e"]

def isDoubleDot (segment : List Char) : Bool :=
  String.ofList (segment.map Char.toLower) ∈ ["..", "%2e.", ".%2e", "%2e%2e"]

/-- Resolves dot segments. A dot segment at the end leaves an empty one. -/
def resolve (kept : List (List Char)) : List (List Char) → List (List Char)
  | [] => kept
  | segment :: rest =>
      let shorter := if isDoubleDot segment then kept.dropLast else kept
      if isDoubleDot segment || isSingleDot segment then
        if rest.isEmpty then shorter ++ [[]] else resolve shorter rest
      else resolve (kept ++ [encodeWhere isPathEncoded segment]) rest

/-- The path of a web address from the characters behind its authority. -/
def readPath (chars : List Char) : String :=
  let inner := match chars with
    | '/' :: rest | '\\' :: rest => rest
    | _ => chars
  String.ofList ((resolve [] (splitSlashes inner)).flatMap ('/' :: ·))

def readHost (own : Option Nat) (authority : List Char) : Except Fault (Host × Option Nat) := do
  let (name, port) := splitPort false (splitUser authority).1
  if name.isEmpty then .error .emptyHost
  else do
    let host ← Host.parse name
    let port ← readPort own (port.getD [])
    .ok (host, port)

/-- Reads what follows the slashes of an address whose scheme has a port of its own. -/
def readWeb (scheme : String) (own : Nat) (chars : List Char) : Except Fault Address := do
  let authority := chars.takeWhile fun c => !endsAuthority true c
  let rest := chars.dropWhile fun c => !endsAuthority true c
  let (host, port) ← readHost (some own) authority
  let isEnd := fun (c : Char) => c = '?' || c = '#'
  let query := match rest.dropWhile fun c => !isEnd c with
    | '?' :: more =>
        some (String.ofList (encodeWhere isQueryEncoded (more.takeWhile (· ≠ '#'))))
    | _ => none
  .ok ⟨scheme, host, port, readPath (rest.takeWhile fun c => !isEnd c), query⟩

/-- Checks the authority of an address whose scheme has no port of its own. Without a host there may
be neither user information, be it only an at sign in front of something, nor a port. A backslash
ends a port. -/
def checkOther (chars : List Char) : Except Fault Unit := do
  let (place, user) := splitUser (chars.takeWhile fun c => !endsAuthority false c)
  let (name, port) := splitPort false place
  Host.checkOpaque name
  let isMore := chars.any (endsAuthority false)
  let hasUser := match user with
    | none => false
    | some [] => isMore && place.isEmpty
    | some user => user ≠ [':']
  if name.isEmpty && (port.isSome || hasUser) then .error .emptyHost
  else do
    let _ ← readPort none ((port.getD []).takeWhile (· ≠ '\\'))
    .ok ()

/-- Checks a file address, whose host may be absent. -/
def checkFile (chars : List Char) : Except Fault Unit :=
  let isSlash := fun (c : Char) => c = '/' || c = '\\'
  match chars with
  | a :: b :: rest =>
      if isSlash a && isSlash b then
        let name := rest.takeWhile fun c => !endsAuthority true c
        let isDrive := match name with
          | [letter, mark] => letter.isAlpha && (mark = ':' || mark = '|')
          | _ => false
        if name.isEmpty || isDrive then .ok () else (Host.parse name).map fun _ => ()
      else .ok ()
  | _ => .ok ()

def parse (text : String) : Except Fault Parsed :=
  match splitScheme (clean text.toList) with
  | none => .error .relative
  | some (scheme, rest) =>
      match schemePort scheme with
      | some own => do
          let address ← readWeb scheme own (rest.dropWhile fun c => c = '/' || c = '\\')
          if scheme = "http" ∨ scheme = "https" then .ok (.web address) else .ok (.other scheme)
      | none => do
          match scheme, rest with
          | "file", _ => checkFile rest
          | _, '/' :: '/' :: rest => checkOther rest
          | _, _ => .ok ()
          .ok (.other scheme)

end Gateway.Url
