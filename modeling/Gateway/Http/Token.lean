import Gateway.Text.Blank
import Gateway.Text.Utf8

/-!
Methods, status codes, header names and header values. Each type carries the rule of its written
form, so that a value of the type can be sent as it is; the constructors `parse?` and `ofBytes?`
accept exactly the texts that obey the rule. Header names are kept in small letters.
-/

namespace Gateway

def isTokenChar (c : Char) : Bool :=
  c.isAlphanum || c ∈ "!#$%&'*+-.^_|~".toList || c.toNat = 96

def isToken (text : String) : Bool :=
  !text.toList.isEmpty && text.toList.all isTokenChar

/-- A request method. Letter case counts. -/
structure Method where
  text : String
  valid : isToken text = true
  deriving DecidableEq, Repr

namespace Method

def parse? (text : String) : Option Method :=
  if valid : isToken text = true then some ⟨text, valid⟩ else none

def get : Method := ⟨"GET", by decide⟩
def head : Method := ⟨"HEAD", by decide⟩
def post : Method := ⟨"POST", by decide⟩
def put : Method := ⟨"PUT", by decide⟩
def patch : Method := ⟨"PATCH", by decide⟩
def delete : Method := ⟨"DELETE", by decide⟩
def options : Method := ⟨"OPTIONS", by decide⟩
def trace : Method := ⟨"TRACE", by decide⟩

def fault : String := "invalid HTTP method"

instance : Inhabited Method := ⟨get⟩

end Method

structure Status where
  code : Nat
  valid : 100 ≤ code ∧ code < 1000
  deriving DecidableEq, Repr

namespace Status

def ofNat? (code : Nat) : Option Status :=
  if valid : 100 ≤ code ∧ code < 1000 then some ⟨code, valid⟩ else none

def ok : Status := ⟨200, by decide⟩
def movedPermanently : Status := ⟨301, by decide⟩
def internalServerError : Status := ⟨500, by decide⟩

def fault : String := "invalid status code"

instance : Inhabited Status := ⟨ok⟩

end Status

def maxNameLength : Nat := 65535

/-- A header name in small letters is a token that equals its lowered form. -/
def isHeaderName (text : String) : Bool :=
  isToken text && Text.lower text = text && text.length ≤ maxNameLength

/-- The name of a header, in small letters. -/
structure HeaderName where
  text : String
  valid : isHeaderName text = true
  deriving DecidableEq, Repr

namespace HeaderName

/-- Reads a name in any letter case. -/
def parse? (text : String) : Option HeaderName :=
  if valid : isHeaderName (Text.lower text) = true then some ⟨Text.lower text, valid⟩ else none

def accept : HeaderName := ⟨"accept", by decide⟩
def allow : HeaderName := ⟨"allow", by decide⟩
def authorization : HeaderName := ⟨"authorization", by decide⟩
def connection : HeaderName := ⟨"connection", by decide⟩
def contentType : HeaderName := ⟨"content-type", by decide⟩
def cookie : HeaderName := ⟨"cookie", by decide⟩
def host : HeaderName := ⟨"host", by decide⟩
def location : HeaderName := ⟨"location", by decide⟩
def requestId : HeaderName := ⟨"x-request-id", by decide⟩
def upgrade : HeaderName := ⟨"upgrade", by decide⟩

def fault : String := "invalid HTTP header name"

end HeaderName

/-- Bytes of a header value: no control characters but the tab. -/
def isValueByte (byte : UInt8) : Bool :=
  (32 ≤ byte.toNat && byte.toNat ≠ 127) || byte.toNat = 9

structure HeaderValue where
  bytes : Bytes
  valid : bytes.all isValueByte = true
  deriving DecidableEq, Repr

namespace HeaderValue

def ofBytes? (bytes : Bytes) : Option HeaderValue :=
  if valid : bytes.all isValueByte = true then some ⟨bytes, valid⟩ else none

def parse? (text : String) : Option HeaderValue :=
  ofBytes? (Utf8.encode text)

def empty : HeaderValue := ⟨[], rfl⟩

instance : Inhabited HeaderValue := ⟨empty⟩

/-- Bytes that are shown as text: printable ASCII and the tab. -/
def isVisibleByte (byte : UInt8) : Bool :=
  (32 ≤ byte.toNat && byte.toNat < 127) || byte.toNat = 9

def text? (value : HeaderValue) : Option String :=
  if value.bytes.all isVisibleByte then
    some (String.ofList (value.bytes.map fun byte => Char.ofNat byte.toNat))
  else none

def fault : String := "failed to parse header value"

end HeaderValue

end Gateway
