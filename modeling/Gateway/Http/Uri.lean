import Gateway.Text.Utf8

/-!
Request targets: `/path?query`, `scheme://authority/path?query`, a bare authority or `*`.
`Uri.parse` checks each part and drops a fragment; `Uri.text` writes the parts back, with `/` for an
empty path behind an authority.
-/

namespace Gateway

structure Uri where
  scheme : Option String
  authority : Option String
  path : String
  query : Option String
  deriving DecidableEq, Repr

namespace Uri

def root : Uri := ⟨none, none, "/", none⟩

instance : Inhabited Uri := ⟨root⟩

inductive Fault where
  | invalidCharacter
  | invalidAuthority
  | invalidFormat
  | tooLong
  | empty
  | schemeTooLong
  deriving DecidableEq, Repr

def Fault.message : Fault → String
  | .invalidCharacter => "invalid uri character"
  | .invalidAuthority => "invalid authority"
  | .invalidFormat => "invalid format"
  | .tooLong => "uri too long"
  | .empty => "empty string"
  | .schemeTooLong => "scheme too long"

def text (uri : Uri) : String :=
  (match uri.scheme with
    | some scheme => scheme ++ "://"
    | none => "") ++
  uri.authority.getD "" ++ uri.path ++
  (match uri.query with
    | some query => "?" ++ query
    | none => "")

def isAuthorityChar (c : Char) : Bool :=
  c.isAlphanum || c ∈ "!$&'()*+,-.;=_~:@[]".toList

def endsAuthority (c : Char) : Bool := c = '/' || c = '?' || c = '#'

/-- What has been seen of an authority. -/
structure AuthorityState where
  colons : Nat := 0
  opened : Bool := false
  closed : Bool := false
  /-- A percent sign outside of the user part and of brackets. -/
  percent : Bool := false
  /-- The last character was an at sign. -/
  atLast : Bool := false

/-- Most colons before an authority is refused at once. -/
def maxColons : Nat := 8

def AuthorityState.step (state : AuthorityState) (c : Char) : Except Fault AuthorityState :=
  if c = ':' then
    if maxColons ≤ state.colons then .error .invalidAuthority
    else .ok { state with colons := state.colons + 1, atLast := false }
  else if c = '[' then
    if state.percent || state.opened then .error .invalidAuthority
    else .ok { state with opened := true, atLast := false }
  else if c = ']' then
    if !state.opened || state.closed then .error .invalidAuthority
    else .ok { state with closed := true, colons := 0, percent := false, atLast := false }
  else if c = '@' then .ok { state with colons := 0, percent := false, atLast := true }
  else if c = '%' then .ok { state with percent := true, atLast := false }
  else if isAuthorityChar c then .ok { state with atLast := false }
  else .error .invalidCharacter

/-- Checks an authority, which ends at the first `/`, `?` or `#`. -/
def checkAuthority (chars : List Char) : Except Fault Unit := do
  let state ← (chars.takeWhile fun c => !endsAuthority c).foldlM AuthorityState.step {}
  if state.opened != state.closed || 1 < state.colons || state.atLast || state.percent then
    .error .invalidAuthority
  else .ok ()

def isPathChar (c : Char) : Bool :=
  let code := c.toNat
  code = 0x21 || (0x24 ≤ code && code ≤ 0x3B) || code = 0x3D || (0x40 ≤ code && code ≤ 0x5F) ||
    (0x61 ≤ code && code ≤ 0x7A) || (0x7C ≤ code && code ≠ 0x7F) || code = 0x22 || code = 0x7B

def isQueryChar (c : Char) : Bool :=
  let code := c.toNat
  code = 0x21 || (0x24 ≤ code && code ≤ 0x3B) || code = 0x3D || (0x3F ≤ code && code ≠ 0x7F)

/-- Reads a path with its query; a fragment is dropped unread. -/
def readTarget (chars : List Char) : Except Fault (String × Option String) :=
  let path := chars.takeWhile fun c => !(c = '?' || c = '#')
  let rest := chars.dropWhile fun c => !(c = '?' || c = '#')
  if !path.all isPathChar then .error .invalidCharacter
  else
    match rest with
    | '?' :: more =>
        let query := more.takeWhile (· ≠ '#')
        if !query.all isQueryChar then .error .invalidCharacter
        else .ok (String.ofList path, some (String.ofList query))
    | _ => .ok (String.ofList path, none)

def isSchemeChar (c : Char) : Bool :=
  c.isAlphanum || c = '+' || c = '-' || c = '.' || c = '~'

def maxSchemeLength : Nat := 64

def maxLength : Nat := 65534

/-- The scheme before `://` with the characters behind it. The common schemes are written small. -/
def splitScheme (chars : List Char) : Except Fault (Option String × List Char) :=
  let letters := chars.takeWhile isSchemeChar
  match chars.dropWhile isSchemeChar with
  | ':' :: '/' :: '/' :: rest =>
      let lowered := String.ofList (letters.map Char.toLower)
      if lowered = "http" || lowered = "https" then .ok (some lowered, rest)
      else if maxSchemeLength < letters.length then .error .schemeTooLong
      else .ok (some (String.ofList letters), rest)
  | _ => .ok (none, chars)

def readAuthority (chars : List Char) : Except Fault (String × List Char) := do
  checkAuthority chars
  .ok (String.ofList (chars.takeWhile fun c => !endsAuthority c),
    chars.dropWhile fun c => !endsAuthority c)

/-- A path that is written `/` when empty. -/
def orRoot (path : String) : String :=
  if path = "" then "/" else path

def ofTarget (scheme authority : Option String) (chars : List Char) : Except Fault Uri := do
  let (path, query) ← readTarget chars
  .ok ⟨scheme, authority, orRoot path, query⟩

/-- Reads a target that starts with a scheme, or is an authority. -/
def ofAbsolute (chars : List Char) : Except Fault Uri := do
  let (scheme, rest) ← splitScheme chars
  if rest.isEmpty then .error .empty
  let (authority, rest) ← readAuthority rest
  match scheme with
  | none => if rest.isEmpty then .ok ⟨none, some authority, "", none⟩ else .error .invalidFormat
  | some scheme =>
      if authority = "" then .error .invalidFormat
      else ofTarget (some scheme) (some authority) rest

/-- Reads a target. Three characters are too few for a scheme, so `://` is not one that lacks its
authority. -/
def parse (text : String) : Except Fault Uri :=
  let chars := text.toList
  if maxLength < (Utf8.encode text).length then .error .tooLong
  else
    match chars with
    | [] => .error .empty
    | ['/'] => .ok root
    | ['*'] => .ok ⟨none, none, "*", none⟩
    | [_] => do
        let (authority, rest) ← readAuthority chars
        if rest.isEmpty then .ok ⟨none, some authority, "", none⟩ else .error .invalidCharacter
    | '/' :: _ => ofTarget none none chars
    | _ => if chars = [':', '/', '/'] then .error .invalidFormat else ofAbsolute chars

end Uri

end Gateway
